import Mathlib.Data.List.Forall2

/-!
# Fields and lines of texts

What stands in front of a separator can be told from what stands behind it (`eq_of_separated`), and as no digit is a
dot, numbers can be told from each other if there are dots between them (`dotted_injective`).  A text that is made of
lines (`Lines`) has as many of them as it has line breaks (`Lines.count`).
-/

set_option autoImplicit false

namespace LiteserverFleet.Text

/-! ## Numbers -/

theorem notMem_toDigits {c : Char} (noDigit : c.isDigit = false) (n : Nat) : c ∉ Nat.toDigits 10 n := by
  intro member
  have isDigit : c.isDigit = true := Nat.isDigit_of_mem_toDigits (by decide) (by decide) member
  exact absurd (noDigit.symm.trans isDigit) Bool.false_ne_true

theorem toDigits_injective {m n : Nat} (same : Nat.toDigits 10 m = Nat.toDigits 10 n) : m = n := calc
  m = Nat.ofDigitChars 10 (Nat.toDigits 10 m) 0 := Nat.ofDigitChars_ten_toDigits.symm
  _ = Nat.ofDigitChars 10 (Nat.toDigits 10 n) 0 := by rw [same]
  _ = n := Nat.ofDigitChars_ten_toDigits

/-! ## Fields -/

section Fields

variable {separator : Char} {first second rest other : List Char}

/-- What stands in front of the first separator is determined, and so is what stands behind it. -/
theorem eq_of_separated (notFirst : separator ∉ first) (notSecond : separator ∉ second)
    (same : first ++ separator :: rest = second ++ separator :: other) : first = second ∧ rest = other := by
  have split := congrArg (List.splitOn separator) same
  rw [List.splitOn_append_cons_self_of_not_mem notFirst, List.splitOn_append_cons_self_of_not_mem notSecond] at split
  obtain rfl : first = second := (List.cons.inj split).1
  have behind : separator :: rest = separator :: other := List.append_cancel_left same
  exact ⟨rfl, (List.cons.inj behind).2⟩

end Fields

/-- Numbers in decimal digits with dots between them. -/
def dotted (numbers : List Nat) : String :=
  ".".intercalate (numbers.map fun n => toString n)

theorem dotted_toList (numbers : List Nat) :
    (dotted numbers).toList = ['.'].intercalate (numbers.map (Nat.toDigits 10)) := by
  simp [dotted, Function.comp_def]

theorem splitOn_dotted {numbers : List Nat} (nonempty : numbers ≠ []) :
    (dotted numbers).toList.splitOn '.' = numbers.map (Nat.toDigits 10) := by
  rw [dotted_toList]
  apply List.splitOn_intercalate
  · intro digits member
    obtain ⟨n, -, rfl⟩ := List.mem_map.mp member
    exact notMem_toDigits (by decide) n
  · simpa using nonempty

theorem dotted_ne_empty {numbers : List Nat} (nonempty : numbers ≠ []) : dotted numbers ≠ "" := by
  intro empty
  have split := splitOn_dotted nonempty
  rw [empty] at split
  have member : [] ∈ numbers.map (Nat.toDigits 10) := split ▸ List.mem_singleton_self []
  obtain ⟨n, -, nothing⟩ := List.mem_map.mp member
  exact Nat.toDigits_ne_nil nothing

theorem dotted_injective {numbers others : List Nat} (same : dotted numbers = dotted others) : numbers = others := by
  cases numbers with
  | nil =>
      cases others with
      | nil => rfl
      | cons n rest => exact absurd same.symm (dotted_ne_empty (List.cons_ne_nil n rest))
  | cons n rest =>
      cases others with
      | nil => exact absurd same (dotted_ne_empty (List.cons_ne_nil n rest))
      | cons m more =>
          have split := congrArg (fun text => text.toList.splitOn '.') same
          simp only [splitOn_dotted (List.cons_ne_nil _ _)] at split
          exact List.map_injective_iff.mpr (fun _ _ => toDigits_injective) split

theorem notMem_dotted {c : Char} (noDigit : c.isDigit = false) (noDot : c ≠ '.') (numbers : List Nat) :
    c ∉ (dotted numbers).toList := by
  rw [dotted_toList]
  induction numbers with
  | nil => exact List.not_mem_nil
  | cons n rest ih =>
      have noNumber := notMem_toDigits noDigit n
      cases rest with
      | nil => simpa using noNumber
      | cons next rest =>
          simp only [List.map_cons, List.intercalate_cons_cons, List.mem_append, List.mem_singleton, not_or] at ih ⊢
          exact ⟨⟨noNumber, noDot⟩, ih⟩

/-! ## Lines -/

/-- A text is made of these lines: each of them stands in front of a line break and holds none. -/
structure Lines (text : String) (lines : List String) : Prop where
  joined : text = String.join (lines.map (· ++ "\n"))
  unbroken : ∀ line ∈ lines, '\n' ∉ line.toList

section Lines

variable {text behind line : String} {lines linesBehind : List String}

theorem Lines.nil : Lines "" [] where
  joined := rfl
  unbroken := nofun

theorem Lines.single (unbroken : '\n' ∉ line.toList) : Lines (line ++ "\n") [line] where
  joined := by simp [String.join_cons]
  unbroken := List.forall_mem_singleton.mpr unbroken

theorem Lines.append (front : Lines text lines) (back : Lines behind linesBehind) :
    Lines (text ++ behind) (lines ++ linesBehind) where
  joined := by rw [List.map_append, String.join_append, ← front.joined, ← back.joined]
  unbroken := List.forall_mem_append.mpr ⟨front.unbroken, back.unbroken⟩

/-- Each line that is joined adds the line break behind it to those that it holds. -/
theorem count_joined (lines : List String) :
    (String.join (lines.map (· ++ "\n"))).toList.count '\n' =
      lines.length + (lines.flatMap String.toList).count '\n' := by
  induction lines with
  | nil => rfl
  | cons line rest ih =>
      have added : (line ++ "\n").toList.count '\n' = line.toList.count '\n' + 1 := by simp
      rw [List.map_cons, String.join_cons, String.toList_append, List.count_append, added, ih,
        List.length_cons, List.flatMap_cons, List.count_append]
      omega

theorem Lines.count (isMade : Lines text lines) : text.toList.count '\n' = lines.length := by
  have noBreak : '\n' ∉ lines.flatMap String.toList := by
    intro member
    obtain ⟨line, isLine, inLine⟩ := List.mem_flatMap.mp member
    exact isMade.unbroken line isLine inLine
  rw [isMade.joined, count_joined, List.count_eq_zero_of_not_mem noBreak, Nat.add_zero]

theorem Lines.flatten {texts : List String} {groups : List (List String)} (made : List.Forall₂ Lines texts groups) :
    Lines (String.join texts) groups.flatten := by
  induction made with
  | nil => exact .nil
  | cons first _ ih =>
      rw [String.join_cons, List.flatten_cons]
      exact first.append ih

/-- A text in front of a line break is made of lines, and what it begins with begins the first one as far as it holds
no line break. -/
theorem exists_lines (tail : List Char) {head : String} (unbroken : '\n' ∉ head.toList) :
    ∃ first rest, Lines (head ++ String.ofList tail ++ "\n") ((head ++ first) :: rest) := by
  -- What is read of the tail goes to the head until a line break ends the line and starts the next one empty.
  induction tail generalizing head with
  | nil =>
      refine ⟨"", [], ?_⟩
      simpa using Lines.single unbroken
  | cons c tail ih =>
      by_cases isBreak : c = '\n'
      · obtain ⟨first, rest, lines⟩ := @ih "" List.not_mem_nil
        refine ⟨"", ("" ++ first) :: rest, ?_⟩
        have whole : head ++ String.ofList (c :: tail) ++ "\n" =
            head ++ "\n" ++ ("" ++ String.ofList tail ++ "\n") := by
          rw [← String.toList_inj]
          simp [isBreak]
        rw [whole, String.append_empty]
        exact (Lines.single unbroken).append lines
      · have unbrokenHere : '\n' ∉ (head.push c).toList := by
          simpa [Ne.symm isBreak] using unbroken
        obtain ⟨first, rest, lines⟩ := ih unbrokenHere
        refine ⟨String.singleton c ++ first, rest, ?_⟩
        have whole : head ++ String.ofList (c :: tail) = head.push c ++ String.ofList tail := by
          rw [← String.toList_inj]
          simp
        have firstLine : head ++ (String.singleton c ++ first) = head.push c ++ first := by
          rw [← String.toList_inj]
          simp
        rw [whole, firstLine]
        exact lines

end Lines

end LiteserverFleet.Text
