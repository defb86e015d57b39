import LiteserverFleet.Json.Value

/-!
# Members in order

Inserting keeps members in ascending order of keys.  Members with different keys are put in that order and
otherwise stay as they are (`ofList_of_perm`).
-/

set_option autoImplicit false

namespace LiteserverFleet.Json

/-- Each key once, and in ascending order. -/
def Members.Ascending (members : Members) : Prop :=
  members.Pairwise fun first second => first.1 < second.1

namespace Members

variable {key : String} {value : Value} {members : Members}

theorem ascending_of_keys (keys : (members.map Prod.fst).Pairwise (· < ·)) : Ascending members :=
  List.pairwise_map.mp keys

theorem lt_of_not_lt {first second : String} (notLess : ¬ first < second) (distinct : first ≠ second) :
    second < first := by
  apply Decidable.byContradiction
  intro notGreater
  exact distinct (String.le_antisymm (String.not_lt.mp notGreater) (String.not_lt.mp notLess))

theorem mem_insert {member : String × Value} (inserted : member ∈ insert key value members) :
    member = (key, value) ∨ member ∈ members := by
  induction members with
  | nil => exact .inl (List.mem_singleton.mp inserted)
  | cons first rest ih =>
      obtain ⟨k, v⟩ := first
      simp only [insert] at inserted
      split at inserted
      · exact List.mem_cons.mp inserted
      · split at inserted
        · rcases List.mem_cons.mp inserted with new | old
          · exact .inl new
          · exact .inr (List.mem_cons_of_mem _ old)
        · rcases List.mem_cons.mp inserted with old | later
          · rw [old]
            exact .inr List.mem_cons_self
          · rcases ih later with new | old
            · exact .inl new
            · exact .inr (List.mem_cons_of_mem _ old)

theorem Ascending.insert (ascending : Ascending members) : Ascending (insert key value members) := by
  induction members with
  | nil => exact List.pairwise_singleton _ _
  | cons first rest ih =>
      obtain ⟨k, v⟩ := first
      obtain ⟨behind, ascendingRest⟩ := List.pairwise_cons.mp ascending
      simp only [Members.insert]
      split
      · next less =>
        refine List.pairwise_cons.mpr ⟨?_, ascending⟩
        refine List.forall_mem_cons.mpr ⟨less, ?_⟩
        intro member later
        exact String.lt_trans less (behind member later)
      · next notLess =>
        split
        · next same =>
          subst same
          exact List.pairwise_cons.mpr ⟨behind, ascendingRest⟩
        · next other =>
          refine List.pairwise_cons.mpr ⟨?_, ih ascendingRest⟩
          intro member inserted
          rcases mem_insert inserted with new | old
          · rw [new]
            exact lt_of_not_lt notLess other
          · exact behind member old

theorem mem_foldl_insert {entries : List (String × Value)} {member : String × Value}
    (inserted : member ∈ entries.foldl (fun sorted entry => insert entry.1 entry.2 sorted) members) :
    member ∈ members ∨ member ∈ entries := by
  induction entries generalizing members with
  | nil => exact .inl inserted
  | cons entry rest ih =>
      rcases ih inserted with before | later
      · rcases mem_insert before with new | old
        · exact .inr (List.mem_cons.mpr (.inl new))
        · exact .inl old
      · exact .inr (List.mem_cons_of_mem _ later)

theorem mem_ofList {entries : List (String × Value)} {member : String × Value}
    (present : member ∈ ofList entries) : member ∈ entries := by
  rcases mem_foldl_insert present with none | entry
  · cases none
  · exact entry

theorem ofList_ascending (entries : List (String × Value)) : Ascending (ofList entries) := by
  suffices step : ∀ members : Members, Ascending members →
      Ascending (entries.foldl (fun sorted entry => insert entry.1 entry.2 sorted) members) from
    step [] .nil
  induction entries with
  | nil =>
      intro members ascending
      exact ascending
  | cons entry rest ih =>
      intro members ascending
      exact ih _ ascending.insert

/-- No key stands twice. -/
def Distinct (members : Members) : Prop :=
  members.Pairwise fun first second => first.1 ≠ second.1

theorem Ascending.distinct (ascending : Ascending members) : Distinct members :=
  ascending.imp String.ne_of_lt

theorem distinct_of_perm {others : Members} (perm : members.Perm others) (distinct : Distinct members) :
    Distinct others :=
  (perm.pairwise_iff Ne.symm).mp distinct

theorem insert_perm (absent : ∀ member ∈ members, key ≠ member.1) :
    (insert key value members).Perm ((key, value) :: members) := by
  induction members with
  | nil => exact .refl _
  | cons first rest ih =>
      obtain ⟨k, v⟩ := first
      obtain ⟨other, absentRest⟩ := List.forall_mem_cons.mp absent
      by_cases less : key < k
      · rw [insert, if_pos less]
      · rw [insert, if_neg less, if_neg other]
        exact ((ih absentRest).cons (k, v)).trans (.swap _ _ _)

/-- Members with different keys stay the same but for their order. -/
theorem ofList_perm {entries : List (String × Value)} (distinct : Distinct entries) :
    (ofList entries).Perm entries := by
  suffices step : ∀ done later : Members, Distinct (done ++ later) →
      (later.foldl (fun sorted entry => insert entry.1 entry.2 sorted) done).Perm (done ++ later) from
    step [] entries distinct
  intro done later
  induction later generalizing done with
  | nil =>
      intro _
      rw [List.append_nil]
      exact .refl _
  | cons entry rest ih =>
      intro distinct
      obtain ⟨-, -, across⟩ := List.pairwise_append.mp distinct
      have absent : ∀ member ∈ done, entry.1 ≠ member.1 := by
        intro member present
        exact (across member present entry List.mem_cons_self).symm
      have moved : (done ++ entry :: rest).Perm (insert entry.1 entry.2 done ++ rest) :=
        List.perm_middle.trans ((insert_perm absent).symm.append_right rest)
      exact (ih _ (distinct_of_perm moved distinct)).trans moved.symm

theorem ofList_of_perm {ordered : Members} (ascending : Ascending ordered) (perm : members.Perm ordered) :
    ofList members = ordered := by
  have distinct : Distinct members := distinct_of_perm perm.symm ascending.distinct
  refine List.Perm.eq_of_pairwise ?_ (ofList_ascending members) ascending
    ((ofList_perm distinct).trans perm)
  intro first second _ _ less greater
  exact absurd greater (String.lt_asymm less)

theorem mem_of_find? (found : members.find? key = some value) : (key, value) ∈ members := by
  obtain ⟨before, behind, split, -⟩ := List.lookup_eq_some_iff.mp found
  rw [split]
  exact List.mem_append_right _ List.mem_cons_self

end Members

end LiteserverFleet.Json
