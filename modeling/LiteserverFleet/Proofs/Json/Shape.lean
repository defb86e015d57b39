import LiteserverFleet.Json.Reader
import LiteserverFleet.Proofs.Json.Members

/-!
# The shape of what is read

A value that is read has its members in ascending order, each key once, and its containers are nested no
deeper than the reader goes: `document_within`.
-/

set_option autoImplicit false

namespace LiteserverFleet.Json

/-- A value of ordered objects in which containers are nested at most to a depth. -/
inductive Value.Within : Nat → Value → Prop where
  | null {depth : Nat} : Within depth .null
  | boolean {depth : Nat} (b : Bool) : Within depth (.boolean b)
  | number {depth : Nat} (n : Number) : Within depth (.number n)
  | text {depth : Nat} (s : String) : Within depth (.text s)
  | array {depth : Nat} {items : List Value} (each : ∀ item ∈ items, Within depth item) :
      Within (depth + 1) (.array items)
  | object {depth : Nat} {members : Members} (ascending : members.Ascending)
      (each : ∀ member ∈ members, Within depth member.2) : Within (depth + 1) (.object members)

/-- What is done in two steps succeeds only if both do. -/
theorem of_bind_eq_ok {ε α β : Type} {first : Except ε α} {next : α → Except ε β} {b : β}
    (done : (first >>= next) = .ok b) : ∃ a, first = .ok a ∧ next a = .ok b := by
  cases first with
  | error e => cases done
  | ok a => exact ⟨a, rfl, done⟩

theorem of_map_eq_ok {ε α β : Type} {f : α → β} {result : Except ε α} {b : β}
    (done : result.map f = .ok b) : ∃ a, result = .ok a ∧ f a = b := by
  cases result with
  | error e => cases done
  | ok a => exact ⟨a, rfl, Except.ok.inj done⟩

theorem mapError_eq_ok_iff {ε δ α : Type} {f : ε → δ} {result : Except ε α} {a : α} :
    result.mapError f = .ok a ↔ result = .ok a := by
  constructor
  · intro done
    cases result with
    | error e => cases done
    | ok b =>
        cases done
        rfl
  · rintro rfl
    rfl

theorem mapError_eq_error_iff {ε δ α : Type} {f : ε → δ} {result : Except ε α} {d : δ} :
    result.mapError f = .error d ↔ ∃ e, result = .error e ∧ f e = d := by
  constructor
  · intro failed
    cases result with
    | error e => exact ⟨e, rfl, Except.error.inj failed⟩
    | ok a => cases failed
  · rintro ⟨e, rfl, rfl⟩
    rfl

namespace Reader

section Containers

variable {reader : ValueReader} {P : Value → Prop} {size : Nat}

theorem listItems_all (each : ∀ cs v rest, reader cs = .ok (v, rest) → P v) {fuel : Nat}
    {cs rest : List Char} {items : List Value} (read : listItems reader fuel cs = .ok (items, rest)) :
    ∀ item ∈ items, P item := by
  induction fuel generalizing cs items rest with
  | zero => cases read
  | succ fuel ih =>
      obtain ⟨⟨item, behind⟩, readItem, more⟩ := of_bind_eq_ok read
      have first := each cs item behind readItem
      dsimp only at more
      split at more
      · cases more
      · cases more
        simpa using first
      · split at more
        · cases more
        · cases more
        · obtain ⟨⟨others, behindOthers⟩, readOthers, done⟩ := of_bind_eq_ok more
          cases done
          exact List.forall_mem_cons.mpr ⟨first, ih readOthers⟩
      · cases more

theorem member_all (each : ∀ cs v rest, reader cs = .ok (v, rest) → P v) {cs rest : List Char}
    {entry : String × Value} (read : member size reader cs = .ok (entry, rest)) : P entry.2 := by
  unfold member at read
  split at read
  · obtain ⟨⟨key, behind⟩, -, more⟩ := of_bind_eq_ok read
    dsimp only at more
    split at more
    · cases more
    · obtain ⟨⟨v, behindValue⟩, readValue, done⟩ := of_bind_eq_ok more
      cases done
      exact each _ _ _ readValue
    · cases more
  · cases read

theorem objectMembers_all (each : ∀ cs v rest, reader cs = .ok (v, rest) → P v) {fuel : Nat}
    {cs rest : List Char} {entries : List (String × Value)}
    (read : objectMembers size reader fuel cs = .ok (entries, rest)) :
    ∀ entry ∈ entries, P entry.2 := by
  induction fuel generalizing cs entries rest with
  | zero => cases read
  | succ fuel ih =>
      obtain ⟨⟨entry, behind⟩, readEntry, more⟩ := of_bind_eq_ok read
      have first := member_all each readEntry
      dsimp only at more
      split at more
      · cases more
      · cases more
        simpa using first
      · split at more
        · cases more
        · cases more
        · obtain ⟨⟨others, behindOthers⟩, readOthers, done⟩ := of_bind_eq_ok more
          cases done
          exact List.forall_mem_cons.mpr ⟨first, ih readOthers⟩
      · cases more

theorem listBody_within {depth : Nat} {cs rest : List Char} {v : Value}
    (each : ∀ cs v rest, reader cs = .ok (v, rest) → v.Within depth)
    (read : listBody size reader cs = .ok (v, rest)) : v.Within (depth + 1) := by
  unfold listBody at read
  split at read
  · cases read
  · cases read
    exact .array (by simp)
  · obtain ⟨⟨items, behind⟩, readItems, done⟩ := of_bind_eq_ok read
    cases done
    exact .array (listItems_all each readItems)

theorem objectBody_within {depth : Nat} {cs rest : List Char} {v : Value}
    (each : ∀ cs v rest, reader cs = .ok (v, rest) → v.Within depth)
    (read : objectBody size reader cs = .ok (v, rest)) : v.Within (depth + 1) := by
  unfold objectBody at read
  split at read
  · cases read
  · cases read
    exact .object .nil (by simp)
  · obtain ⟨⟨entries, behind⟩, readEntries, done⟩ := of_bind_eq_ok read
    cases done
    refine .object (Members.ofList_ascending entries) ?_
    intro entry present
    exact objectMembers_all each readEntries entry (Members.mem_ofList present)

end Containers

theorem literal_eq_ok {result v : Value} {letters cs rest : List Char}
    (read : literal result letters cs = .ok (v, rest)) : v = result := by
  induction letters generalizing cs with
  | nil =>
      cases read
      rfl
  | cons letter letters ih =>
      cases cs with
      | nil => cases read
      | cons c cs =>
          simp only [literal] at read
          split at read
          · exact ih read
          · cases read

theorem valueWith_within {size depth : Nat} {nested : Option ValueReader} {cs rest : List Char}
    {v : Value}
    (each : ∀ reader, nested = some reader → ∃ below, depth = below + 1 ∧
      ∀ cs v rest, reader cs = .ok (v, rest) → v.Within below)
    (read : valueWith size nested cs = .ok (v, rest)) : v.Within depth := by
  unfold valueWith at read
  split at read
  · cases read
  · rw [literal_eq_ok read]
    exact .null
  · rw [literal_eq_ok read]
    exact .boolean true
  · rw [literal_eq_ok read]
    exact .boolean false
  · obtain ⟨⟨n, behind⟩, -, done⟩ := of_bind_eq_ok read
    cases done
    exact .number n
  · obtain ⟨⟨s, behind⟩, -, done⟩ := of_bind_eq_ok read
    cases done
    exact .text s
  · split at read
    · cases read
    · next reader =>
      obtain ⟨below, rfl, eachBelow⟩ := each reader rfl
      exact listBody_within eachBelow read
  · split at read
    · cases read
    · next reader =>
      obtain ⟨below, rfl, eachBelow⟩ := each reader rfl
      exact objectBody_within eachBelow read
  · split at read
    · obtain ⟨⟨n, behind⟩, -, done⟩ := of_bind_eq_ok read
      cases done
      exact .number n
    · cases read

theorem value_within {size depth : Nat} {cs rest : List Char} {v : Value}
    (read : value size depth cs = .ok (v, rest)) : v.Within depth := by
  induction depth generalizing cs v rest with
  | zero =>
      refine valueWith_within ?_ read
      intro reader isReader
      cases isReader
  | succ depth ih =>
      refine valueWith_within ?_ read
      intro reader isReader
      cases isReader
      exact ⟨depth, rfl, fun cs v rest readBelow => ih readBelow⟩

theorem document_within {cs : List Char} {v : Value} (read : document cs = .ok v) :
    v.Within greatestDepth := by
  obtain ⟨⟨whole, rest⟩, readWhole, done⟩ := of_bind_eq_ok read
  dsimp only at done
  split at done
  · cases done
    exact value_within readWhole
  · cases done

end Reader

end LiteserverFleet.Json
