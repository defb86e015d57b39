import LiteserverFleet.Proofs.Json.Decoding
import LiteserverFleet.Request.Parameters

/-!
# Parameters as text

Parameters are written with their members in the order of declaration, and without the options that are absent; what is
read has the members in ascending order.  Parameters of words decode from their text to themselves, and whatever
text parameters have been decoded from, they are parameters of words (`text_round_trip`).
-/

set_option autoImplicit false

namespace LiteserverFleet.RequestParameters

open Json (Value Members Decoder)

/-- Every index and the count are words of 64 bits. -/
structure Words (p : RequestParameters) : Prop where
  indexes : ∀ ns, p.indexes = some ns → ∀ n ∈ ns, n < 0x10000000000000000
  count : ∀ n, p.count = some n → n < 0x10000000000000000

/-! ## What is written -/

def indexMember (p : RequestParameters) : Members :=
  (p.indexes.map fun ns => ("lite_server_indexes", Value.array (ns.map .ofNat))).toList

def countMember (p : RequestParameters) : Members :=
  (p.count.map fun n => ("clients_number", Value.ofNat n)).toList

/-- The members in ascending order of keys. -/
def orderedMembers (p : RequestParameters) : Members :=
  ("archival", .boolean p.archival) :: (p.countMember ++ (p.indexMember ++ [("mode", .text p.mode.name)]))

/-- The members in the order in which they are written. -/
def writtenMembers (p : RequestParameters) : Members :=
  [("mode", .text p.mode.name), ("archival", .boolean p.archival)] ++ p.indexMember ++ p.countMember

theorem toValue_eq (p : RequestParameters) : p.toValue = .object p.writtenMembers :=
  rfl

theorem writtenMembers_perm (p : RequestParameters) : p.writtenMembers.Perm p.orderedMembers := by
  have swapped : (p.indexMember ++ p.countMember).Perm (p.countMember ++ p.indexMember) :=
    List.perm_append_comm
  have modeLast : p.writtenMembers.Perm
      ((("archival", .boolean p.archival) :: (p.indexMember ++ p.countMember)) ++
        [("mode", .text p.mode.name)]) := by
    rw [writtenMembers, List.append_assoc]
    exact (List.perm_append_singleton _ _).symm
  rw [orderedMembers, ← List.append_assoc]
  exact modeLast.trans ((swapped.cons _).append_right _)

theorem orderedMembers_ascending (p : RequestParameters) : p.orderedMembers.Ascending := by
  have index : (p.indexMember.map Prod.fst).Sublist ["lite_server_indexes"] := by
    cases given : p.indexes <;> simp [indexMember, given]
  have count : (p.countMember.map Prod.fst).Sublist ["clients_number"] := by
    cases counted : p.count <;> simp [countMember, counted]
  have keys : (p.orderedMembers.map Prod.fst).Sublist
      ["archival", "clients_number", "lite_server_indexes", "mode"] := by
    simp only [orderedMembers, List.map_cons, List.map_append]
    exact (count.append (index.append (.refl ["mode"]))).cons_cons "archival"
  have ascending : ["archival", "clients_number", "lite_server_indexes", "mode"].Pairwise (· < ·) := by decide
  exact Json.Members.ascending_of_keys (ascending.sublist keys)

/-- What holds of the values of all four members holds of each member that is there. -/
theorem forall_orderedMembers {p : RequestParameters} {Q : Value → Prop} (mode : Q (.text p.mode.name))
    (archival : Q (.boolean p.archival))
    (indexes : ∀ ns, p.indexes = some ns → Q (.array (ns.map .ofNat)))
    (count : ∀ n, p.count = some n → Q (.ofNat n)) : ∀ member ∈ p.orderedMembers, Q member.2 := by
  intro member present
  simp only [orderedMembers, countMember, indexMember, List.mem_cons, List.mem_append, Option.mem_toList,
    Option.map_eq_some_iff, List.not_mem_nil, or_false] at present
  rcases present with rfl | ⟨n, counted, rfl⟩ | ⟨ns, given, rfl⟩ | rfl
  · exact archival
  · exact count n counted
  · exact indexes ns given
  · exact mode

theorem orderedMembers_within (p : RequestParameters) :
    (Value.object p.orderedMembers).Within Json.Reader.greatestDepth := by
  have numberWithin {depth : Nat} (n : Nat) : (Value.ofNat n).Within depth := .number _
  refine .object p.orderedMembers_ascending (forall_orderedMembers (.text _) (.boolean _) ?_ ?_)
  · intro ns _
    exact .array (List.forall_mem_map.mpr fun n _ => numberWithin n)
  · intro n _
    exact numberWithin n

section Decoded

variable {p : RequestParameters}

theorem orderedMembers_integral (words : p.Words) : (Value.object p.orderedMembers).Integral := by
  have wordIntegral {n : Nat} (word : n < 0x10000000000000000) : (Value.ofNat n).Integral :=
    Json.Number.integral_ofInt ⟨by omega, by omega⟩
  refine .object (forall_orderedMembers (.text _) (.boolean _) ?_ ?_)
  · intro ns given
    exact .array (List.forall_mem_map.mpr fun n member => wordIntegral (words.indexes ns given n member))
  · intro n counted
    exact wordIntegral (words.count n counted)

/-! ## What is decoded -/

theorem choice_name (mode : RequestMode) : Decoder.choice RequestMode.names (.text mode.name) = .ok mode := by
  cases mode <;> rfl

theorem ofValue_orderedMembers (words : p.Words) : ofValue (.object p.orderedMembers) = .ok p := by
  have count : ∀ n, p.count = some n →
      Decoder.optional Decoder.index (.ofNat n) = .ok p.count := by
    intro n counted
    rw [counted]
    exact Decoder.optional_of_present nofun (Decoder.index_ofNat (words.count n counted))
  have indexes : ∀ ns, p.indexes = some ns →
      Decoder.optional (Decoder.list Decoder.index) (.array (ns.map .ofNat)) = .ok p.indexes := by
    intro ns given
    rw [given]
    refine Decoder.optional_of_present nofun (Decoder.list_map ?_)
    intro n member
    exact Decoder.index_ofNat (words.indexes ns given n member)
  have filled := calc shape.fill {} (.object p.orderedMembers)
      _ = Decoder.fillByName shape.fields {} p.orderedMembers := rfl
      _ = Decoder.fillByName shape.fields { archival := p.archival }
          (p.countMember ++ (p.indexMember ++ [("mode", .text p.mode.name)])) :=
        Decoder.fillByName_cons rfl rfl
      _ = Decoder.fillByName shape.fields { archival := p.archival, count := p.count }
          (p.indexMember ++ [("mode", .text p.mode.name)]) := by
        refine Decoder.fillByName_option rfl p.count ?_ (fun absent => by rw [absent])
        intro n counted
        rw [count n counted]
        rfl
      _ = Decoder.fillByName shape.fields
          { archival := p.archival, count := p.count, indexes := p.indexes }
          [("mode", .text p.mode.name)] := by
        refine Decoder.fillByName_option rfl p.indexes ?_ (fun absent => by rw [absent])
        intro ns given
        rw [indexes ns given]
        rfl
      _ = .ok { mode := some p.mode, archival := p.archival, indexes := p.indexes, count := p.count } := by
        refine Decoder.fillByName_cons rfl ?_
        rw [choice_name]
        rfl
  rw [ofValue, filled]
  rfl

theorem decodes_compactText (words : p.Words) : Decoder.Decodes ofValue p.toValue.compactText p := by
  refine ⟨.object p.orderedMembers, ?_, ofValue_orderedMembers words⟩
  rw [toValue_eq]
  exact Json.parse_compactText_reordered p.writtenMembers_perm p.orderedMembers_within
    (orderedMembers_integral words)

/-- What has been filled in so far are words. -/
structure Partial.Words (filled : Partial) : Prop where
  indexes : ∀ ns, filled.indexes = some ns → ∀ n ∈ ns, n < 0x10000000000000000
  count : ∀ n, filled.count = some n → n < 0x10000000000000000

theorem shape_words : ∀ field ∈ shape.fields, ∀ v (record next : Partial), record.Words →
    field.2 v record = .ok next → next.Words := by
  simp only [shape, List.forall_mem_cons]
  refine ⟨?mode, ?archival, ?indexes, ?count, nofun⟩
  case mode =>
    intro v record next words filled
    obtain ⟨mode, -, rfl⟩ := Json.of_map_eq_ok filled
    exact ⟨words.indexes, words.count⟩
  case archival =>
    intro v record next words filled
    obtain ⟨archival, -, rfl⟩ := Json.of_map_eq_ok filled
    exact ⟨words.indexes, words.count⟩
  case indexes =>
    intro v record next words filled
    obtain ⟨given, decoded, rfl⟩ := Json.of_map_eq_ok filled
    refine ⟨?_, words.count⟩
    intro ns isGiven n member
    cases isGiven
    obtain ⟨item, isItem⟩ := Decoder.list_eq_ok (Decoder.optional_eq_ok decoded) n member
    exact Decoder.index_eq_ok isItem
  case count =>
    intro v record next words filled
    obtain ⟨given, decoded, rfl⟩ := Json.of_map_eq_ok filled
    refine ⟨words.indexes, ?_⟩
    intro n isGiven
    cases isGiven
    exact Decoder.index_eq_ok (Decoder.optional_eq_ok decoded)

theorem words_of_decoded {v : Value} (decoded : ofValue v = .ok p) : p.Words := by
  obtain ⟨filled, isFilled, decoded⟩ := Json.of_bind_eq_ok decoded
  obtain ⟨mode, -, decoded⟩ := Json.of_bind_eq_ok decoded
  cases decoded
  have noneYet : ({} : Partial).Words := ⟨nofun, nofun⟩
  obtain ⟨indexes, count⟩ := Decoder.Shape.fill_all shape_words noneYet isFilled
  exact ⟨indexes, count⟩

end Decoded

/-- Parameters of words decode from their text to themselves and to nothing else, and no other parameters of words have
this text, those with an empty list in place of an absent one included.  Parameters that have been decoded
from any text are parameters of words, so writing and decoding them once more changes nothing, nor what they are
validated to. -/
theorem text_round_trip {p : RequestParameters}
    (given : p.Words ∨ ∃ text, Decoder.Decodes ofValue text p) :
    p.Words ∧
    (∀ q, Decoder.Decodes ofValue p.toValue.compactText q ↔ q = p) ∧
    (∀ q : RequestParameters, q.Words → q.toValue.compactText = p.toValue.compactText → q = p) ∧
    ∀ q, Decoder.Decodes ofValue p.toValue.compactText q → q.validate = p.validate := by
  have words : p.Words := by
    rcases given with words | ⟨text, v, -, decoded⟩
    · exact words
    · exact words_of_decoded decoded
  have decodes := decodes_compactText words
  have only {q : RequestParameters} (decodesToo : Decoder.Decodes ofValue p.toValue.compactText q) : q = p :=
    decodesToo.unique decodes
  refine ⟨words, fun q => ⟨only, ?_⟩, ?_, ?_⟩
  · rintro rfl
    exact decodes
  · intro q wordsToo same
    exact only (same ▸ decodes_compactText wordsToo)
  · intro q decodesToo
    rw [only decodesToo]

/-- The greatest word as an index; and the list of fields, which ends behind the mode. -/
theorem text_round_trip_two_forms :
    let p : RequestParameters := { mode := .multiple, archival := true, indexes := some [0xFFFFFFFFFFFFFFFF, 0] }
    let text := "\x7b\"mode\":\"multiple\",\"archival\":true,\"lite_server_indexes\":[18446744073709551615,0]\x7d"
    p.Words ∧ p.toValue.compactText = text ∧ (∀ q, Decoder.Decodes ofValue text q ↔ q = p) ∧
      Decoder.Decodes ofValue "[\"single\"]" anyWorker ∧
        ∀ q, Decoder.Decodes ofValue anyWorker.toValue.compactText q → q.validate = anyWorker.validate := by
  intro p text
  have isText : p.toValue.compactText = text := by decide +kernel
  have words : p.Words := by
    refine ⟨?_, nofun⟩
    intro ns given
    cases given
    decide
  have byPosition : Decoder.Decodes ofValue "[\"single\"]" anyWorker := by
    let v : Value := .array [.text "single"]
    have isCompact : v.compactText = "[\"single\"]" := by decide +kernel
    have isValue := Json.parse_compactText (v := v) (.array (List.forall_mem_singleton.mpr (.text _)))
      (.array (List.forall_mem_singleton.mpr (.text _)))
    rw [isCompact] at isValue
    exact ⟨v, isValue, rfl⟩
  obtain ⟨-, decodes, -⟩ := text_round_trip (.inl words)
  obtain ⟨-, -, -, validates⟩ := text_round_trip (.inr ⟨_, byPosition⟩)
  exact ⟨words, isText, isText ▸ decodes, byPosition, validates⟩

end LiteserverFleet.RequestParameters
