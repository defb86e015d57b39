import LiteserverFleet.Files.Path
import LiteserverFleet.Proofs.Text.Separators

/-!
# Paths of names in a directory

A plain name that is joined to a directory is the last name of the path, behind those of the directory
(`steps_join`), whether the directory is empty, ends in a slash, or neither.  A path above another one has the first
of its names (`names_of_ancestor`).  Names that are numbered are plain, and different for different numbers
(`numbered_injective`).
-/

set_option autoImplicit false

namespace LiteserverFleet.Path

/-- What can stand between slashes. -/
structure Segment (name : String) : Prop where
  nonempty : name ≠ ""
  noSlash : '/' ∉ name.toList

/-- A name that stands for itself, because it is none of the dots. -/
structure Plain (name : String) : Prop extends Segment name where
  noDot : name ≠ "."
  noDots : name ≠ ".."

theorem cut_eq_splitOn (cs : List Char) : cut cs = cs.splitOn '/' := by
  induction cs with
  | nil => rfl
  | cons c cs ih =>
      rw [cut, List.splitOn_cons_eq_if_modifyHead, ih]
      by_cases slash : c = '/'
      · simp [slash]
      · obtain ⟨first, rest, isSplit⟩ := List.exists_cons_of_ne_nil (List.splitOn_ne_nil '/' cs)
        simp [slash, isSplit]

theorem cut_ne_nil (cs : List Char) : cut cs ≠ [] := by
  rw [cut_eq_splitOn]
  exact List.splitOn_ne_nil '/' cs

theorem cut_slash (cs ds : List Char) : cut (cs ++ '/' :: ds) = cut cs ++ cut ds := by
  simp only [cut_eq_splitOn]
  exact List.splitOn_append_cons_self cs ds

theorem cut_of_noSlash {cs : List Char} (noSlash : '/' ∉ cs) : cut cs = [cs] := by
  rw [cut_eq_splitOn]
  exact List.splitOn_eq_singleton noSlash

variable {name : String}

theorem names_of_segment (segment : Segment name) : names name = [name] := by
  simp [names, segments, cut_of_noSlash segment.noSlash, segment.nonempty]

/-- The names of a text are those in front of a slash and those behind it. -/
theorem names_slash {path front behind : String} (split : path.toList = front.toList ++ '/' :: behind.toList) :
    names path = names front ++ names behind := by
  simp only [names, segments, split, cut_slash, List.map_append, List.filter_append]

theorem names_join (plain : Plain name) (directory : String) :
    names (join directory name) = names directory ++ [name] := by
  unfold join
  split
  · next empty =>
    rw [empty, names_of_segment plain.toSegment]
    rfl
  · split
    · next slash =>
      obtain ⟨front, isFront⟩ : ∃ front, directory.toList = front ++ ['/'] :=
        List.getLast?_eq_some_iff.mp (by simpa [endsWithSlash] using slash)
      have whole : (directory ++ name).toList = (String.ofList front).toList ++ '/' :: name.toList := by
        simp [isFront]
      have alone : directory.toList = (String.ofList front).toList ++ '/' :: "".toList := by
        simp [isFront]
      have noNames : names "" = [] := rfl
      rw [names_slash whole, names_slash alone, names_of_segment plain.toSegment, noNames, List.append_nil]
    · have whole : (directory ++ "/" ++ name).toList = directory.toList ++ '/' :: name.toList := by
        simp
      rw [names_slash whole, names_of_segment plain.toSegment]

theorem endsWithSlash_append (plain : Plain name) (front : String) :
    endsWithSlash (front ++ name) = false := by
  have nonempty : name.toList ≠ [] := by simpa using plain.nonempty
  have last : name.toList.getLast nonempty ∈ name.toList := List.getLast_mem nonempty
  have noSlash : name.toList.getLast nonempty ≠ '/' := fun same => plain.noSlash (same ▸ last)
  simp [endsWithSlash, List.getLast?_append, List.getLast?_eq_some_getLast nonempty, noSlash]

theorem endsWithSlash_join (plain : Plain name) (directory : String) :
    endsWithSlash (join directory name) = false := by
  unfold join
  split
  · rw [← String.empty_append (s := name)]
    exact endsWithSlash_append plain ""
  · split
    · exact endsWithSlash_append plain directory
    · exact endsWithSlash_append plain (directory ++ "/")

/-- The path of a plain name in a directory leads through the names of the directory to this name. -/
theorem steps_join (plain : Plain name) (directory : String) :
    steps (join directory name) = names directory ++ [name] := by
  rw [steps, endsWithSlash_join plain, names_join plain]
  rfl

theorem isAbsolute_join {directory : String} (nonempty : directory ≠ "") (name : String) :
    isAbsolute (join directory name) = isAbsolute directory := by
  have letters : directory.toList ≠ [] := by simpa using nonempty
  obtain ⟨c, cs, isDirectory⟩ := List.exists_cons_of_ne_nil letters
  unfold join
  rw [if_neg nonempty]
  split <;> simp [isAbsolute, isDirectory]

theorem join_injective {first second : String} (plain : Plain first) (plainToo : Plain second)
    {directory : String} (same : join directory first = join directory second) : first = second := by
  have paths := congrArg names same
  rw [names_join plain, names_join plainToo] at paths
  have last : [first] = [second] := List.append_cancel_left paths
  exact List.singleton_inj.mp last

/-! ## Paths above a path -/

theorem cut_noSlash {cs : List Char} {segment : List Char} (member : segment ∈ cut cs) : '/' ∉ segment := by
  induction cs generalizing segment with
  | nil =>
      cases List.mem_singleton.mp member
      exact List.not_mem_nil
  | cons c cs ih =>
      rw [cut] at member
      split at member
      · rcases List.mem_cons.mp member with rfl | later
        · exact List.not_mem_nil
        · exact ih later
      · next other =>
        split at member
        · next nothing => exact absurd nothing (cut_ne_nil cs)
        · next first rest isCut =>
          rcases List.mem_cons.mp member with rfl | later
          · have noSlash : '/' ∉ first := ih (isCut ▸ List.mem_cons_self)
            exact not_or.mpr ⟨Ne.symm other, noSlash⟩ ∘ List.mem_cons.mp
          · exact ih (isCut ▸ List.mem_cons_of_mem first later)

theorem segment_of_mem_names {path : String} (member : name ∈ names path) : Segment name := by
  obtain ⟨isSegment, nonempty⟩ := List.mem_filter.mp member
  obtain ⟨cs, isCut, rfl⟩ := List.mem_map.mp isSegment
  refine ⟨by simpa using nonempty, ?_⟩
  rw [String.toList_ofList]
  exact cut_noSlash isCut

theorem names_intercalate {ns : List String} (segments : ∀ name ∈ ns, Segment name) :
    names ("/".intercalate ns) = ns := by
  induction ns with
  | nil => rfl
  | cons name rest ih =>
      obtain ⟨segment, segmentsRest⟩ := List.forall_mem_cons.mp segments
      cases rest with
      | nil =>
          rw [String.intercalate_singleton]
          exact names_of_segment segment
      | cons next rest =>
          have split : ("/".intercalate (name :: next :: rest)).toList =
              name.toList ++ '/' :: ("/".intercalate (next :: rest)).toList := by
            simp [String.intercalate_cons_cons]
          rw [names_slash split, names_of_segment segment, ih segmentsRest]
          rfl

theorem isAbsolute_intercalate {rest : List String} (segment : Segment name) :
    isAbsolute ("/".intercalate (name :: rest)) = false := by
  have nonempty : name.toList ≠ [] := by simpa using segment.nonempty
  obtain ⟨c, cs, isName⟩ := List.exists_cons_of_ne_nil nonempty
  have noSlash : c ≠ '/' := by
    rintro rfl
    exact segment.noSlash (isName ▸ List.mem_cons_self)
  cases rest with
  | nil => simp [isAbsolute, isName, noSlash]
  | cons next rest => simp [isAbsolute, String.intercalate_cons_cons, isName, noSlash]

theorem plainNames_subset (path : String) : plainNames path ⊆ names path := by
  unfold plainNames
  split
  · exact List.nil_subset _
  · next first rest isNames =>
    rw [isNames]
    refine List.append_subset.mpr ⟨?_, ?_⟩
    · split
      · exact List.nil_subset _
      · exact List.cons_subset_cons first (List.nil_subset rest)
    · exact List.subset_cons_of_subset first List.filter_sublist.subset

theorem pos_of_mem_drop_range {k n : Nat} (member : k ∈ (List.range n).drop 1) : 0 < k ∧ k < n := by
  obtain ⟨i, found⟩ := List.mem_iff_getElem?.mp member
  rw [List.getElem?_drop] at found
  obtain ⟨inside, rfl⟩ := List.getElem?_eq_some_iff.mp found
  rw [List.length_range] at inside
  rw [List.getElem_range]
  omega

/-- The names of a path above another one are the first plain names of the latter. -/
theorem names_of_ancestor {above path : String} (isAbove : above ∈ ancestors path) :
    above = path ∨ ∃ k, names above = (plainNames path).take k ∧ isAbsolute above = isAbsolute path := by
  rcases List.mem_cons.mp isAbove with same | member
  · exact .inl same
  · obtain ⟨k, inside, rfl⟩ := List.mem_map.mp member
    obtain ⟨positive, less⟩ := pos_of_mem_drop_range (List.mem_reverse.mp inside)
    have segments : ∀ name ∈ (plainNames path).take k, Segment name := fun name taken =>
      segment_of_mem_names (plainNames_subset path (List.mem_of_mem_take taken))
    refine .inr ⟨k, ?_⟩
    cases absolute : isAbsolute path with
    | true =>
        have split : ("/" ++ "/".intercalate ((plainNames path).take k)).toList =
            "".toList ++ '/' :: ("/".intercalate ((plainNames path).take k)).toList := by
          simp
        have noNames : names "" = [] := rfl
        rw [if_pos rfl]
        constructor
        · rw [names_slash split, noNames, names_intercalate segments, List.nil_append]
        · simp [isAbsolute]
    | false =>
        rw [if_neg Bool.false_ne_true, String.empty_append]
        refine ⟨names_intercalate segments, ?_⟩
        cases taken : (plainNames path).take k with
        | nil =>
            have length := congrArg List.length taken
            rw [List.length_take, List.length_nil] at length
            omega
        | cons first rest =>
            have segment : Segment first := segments first (taken ▸ List.mem_cons_self)
            exact isAbsolute_intercalate segment

/-! ## Numbered names -/

/-- The name of the file or the directory of an index; behind the number there may be an extension. -/
def numbered (index : Nat) (extension : String) : String :=
  "ls_" ++ toString index ++ extension

theorem numbered_toList (index : Nat) (extension : String) :
    (numbered index extension).toList =
      'l' :: 's' :: '_' :: (Nat.toDigits 10 index ++ extension.toList) := by
  simp [numbered]

theorem numbered_plain (index : Nat) {extension : String} (noSlash : '/' ∉ extension.toList) :
    Plain (numbered index extension) := by
  have letters := numbered_toList index extension
  refine ⟨⟨?_, ?_⟩, ?_, ?_⟩
  · intro empty
    simp [empty] at letters
  · have noDigit : '/' ∉ Nat.toDigits 10 index := Text.notMem_toDigits (by decide) index
    simp [letters, noDigit, noSlash]
  · intro dot
    simp [dot] at letters
  · intro dots
    simp [dots] at letters

theorem numbered_injective {extension : String} {i j : Nat}
    (same : numbered i extension = numbered j extension) : i = j := by
  have letters := congrArg String.toList same
  simp only [numbered_toList, List.cons.injEq, true_and] at letters
  have digits : Nat.toDigits 10 i = Nat.toDigits 10 j := List.append_cancel_right letters
  exact Text.toDigits_injective digits

end LiteserverFleet.Path
