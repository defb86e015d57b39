import LiteserverFleet.Json.Printer
import LiteserverFleet.Proofs.Json.Shape

/-!
# Reading written tokens

Whatever follows, a written string reads back (`stringBody_escaped`); so does a written integer, if what
follows does not go on with it (`integer_reads`).
-/

set_option autoImplicit false

namespace LiteserverFleet.Json.Reader

/-- What may follow a value in a text: nothing, a blank, a comma or a closing bracket. -/
def Follows (rest : List Char) : Prop :=
  ∀ c, rest.head? = some c → isBlank c = true ∨ c = ',' ∨ c = ']' ∨ c = '}'

theorem follows_nil : Follows [] := nofun

theorem follows_cons {c : Char} {rest : List Char}
    (may : isBlank c = true ∨ c = ',' ∨ c = ']' ∨ c = '}') : Follows (c :: rest) := by
  intro d isHead
  cases Option.some.inj isHead
  exact may

/-! ## Numbers -/

theorem digitChar_facts : ∀ d : Fin 10,
    (Nat.digitChar d).isDigit = true ∧ digitValue (Nat.digitChar d) = d ∧
      (Nat.digitChar d = '0' → (d : Nat) = 0) := by
  decide

theorem digitValue_digitChar {d : Nat} (small : d < 10) : digitValue (Nat.digitChar d) = d :=
  (digitChar_facts ⟨d, small⟩).2.1

theorem isDigit_digitChar {d : Nat} (small : d < 10) : (Nat.digitChar d).isDigit = true :=
  (digitChar_facts ⟨d, small⟩).1

theorem appendDigits_digit {limit number taken d : Nat} {rest : List Char} (small : d < 10)
    (inLimit : number * 10 + d ≤ limit) :
    appendDigits limit number taken (Nat.digitChar d :: rest) =
      appendDigits limit (number * 10 + d) (taken + 1) rest := by
  simp [appendDigits, isDigit_digitChar small, digitValue_digitChar small, inLimit]

/-- Digits of a number within the limit are all taken. -/
theorem appendDigits_naturalDigits {limit : Nat} (n : Nat) (inLimit : n ≤ limit) (rest : List Char) :
    ∃ taken, appendDigits limit 0 0 (Number.naturalDigits n ++ rest) =
      appendDigits limit n taken rest := by
  induction n using Nat.strongRecOn generalizing rest with
  | ind n ih =>
      unfold Number.naturalDigits at ih ⊢
      by_cases small : n < 10
      · refine ⟨1, ?_⟩
        rw [Nat.toDigits_of_lt_base small, List.singleton_append, appendDigits_digit small (by omega)]
        simp
      · obtain ⟨taken, appended⟩ := ih (n / 10) (by omega) (by omega) (Nat.digitChar (n % 10) :: rest)
        refine ⟨taken + 1, ?_⟩
        have last : n % 10 < 10 := Nat.mod_lt _ (by decide)
        have whole : n / 10 * 10 + n % 10 = n := Nat.div_add_mod' n 10
        rw [Nat.toDigits_of_base_le (by decide) (by omega), List.append_assoc, List.singleton_append,
          appended, appendDigits_digit last (by omega), whole]

theorem naturalDigits_head (n : Nat) : ∃ d rest, Number.naturalDigits n = Nat.digitChar d :: rest ∧
    d < 10 ∧ (d = 0 → n = 0 ∧ rest = []) := by
  induction n using Nat.strongRecOn with
  | ind n ih =>
      unfold Number.naturalDigits at ih ⊢
      by_cases small : n < 10
      · rw [Nat.toDigits_of_lt_base small]
        exact ⟨n, [], rfl, small, fun zero => ⟨zero, rfl⟩⟩
      · obtain ⟨d, rest, digits, isDigit, zero⟩ := ih (n / 10) (by omega)
        rw [Nat.toDigits_of_base_le (by decide) (by omega), digits]
        refine ⟨d, _, rfl, isDigit, ?_⟩
        intro isZero
        have := (zero isZero).1
        omega

theorem follows_noDigit {c : Char} {rest : List Char} (follows : Follows (c :: rest)) :
    c.isDigit = false ∧ c ≠ '.' ∧ c ≠ 'e' ∧ c ≠ 'E' := by
  have may := follows c rfl
  simp only [isBlank, Bool.or_eq_true, decide_eq_true_eq] at may
  rcases may with ((((rfl | rfl) | rfl) | rfl) | rfl | rfl | rfl) <;> decide

theorem appendDigits_stop {limit number taken : Nat} {rest : List Char} (follows : Follows rest) :
    appendDigits limit number taken rest = (number, taken, rest) := by
  cases rest with
  | nil => rfl
  | cons c rest => simp [appendDigits, (follows_noDigit follows).1]

theorem numberPart_naturalDigits (positive : Bool) {n : Nat} {rest : List Char}
    (inLimit : n ≤ greatestWord) (follows : Follows rest) :
    numberPart positive (Number.naturalDigits n ++ rest) = .ok (wholeNumber positive n, rest) := by
  obtain ⟨d, digits, isDigits, small, zero⟩ := naturalDigits_head n
  obtain ⟨taken, appended⟩ := appendDigits_naturalDigits n inLimit rest
  rw [appendDigits_stop follows] at appended
  have noLeadingZero : (decide (Nat.digitChar d = '0') && (digits ++ rest).head?.any Char.isDigit) =
      false := by
    by_cases isZero : Nat.digitChar d = '0'
    · obtain ⟨-, rfl⟩ := zero ((digitChar_facts ⟨d, small⟩).2.2 isZero)
      cases rest with
      | nil => simp
      | cons c rest => simp [(follows_noDigit follows).1]
    · simp [isZero]
  rw [isDigits, List.cons_append] at appended ⊢
  simp only [numberPart, isDigit_digitChar small, noLeadingZero, appended, Bool.not_true,
    Bool.false_eq_true, if_false]
  cases rest with
  | nil => rfl
  | cons c rest =>
      obtain ⟨noDigit, noPoint, noSmall, noLarge⟩ := follows_noDigit follows
      have noneDropped : (c :: rest).takeWhile Char.isDigit = [] := by simp [noDigit]
      have allLeft : (c :: rest).dropWhile Char.isDigit = c :: rest := by simp [noDigit]
      rw [noneDropped, allLeft]
      split
      · next same => exact absurd (List.cons.inj same).1 noPoint
      · next same => exact absurd (List.cons.inj same).1 noSmall
      · next same => exact absurd (List.cons.inj same).1 noLarge
      · rfl

/-! ## Strings -/

theorem hexValue?_digitChar : ∀ d : Fin 16, hexValue? (Nat.digitChar d) = some (d : Nat) := by
  decide

theorem escape_escapedByte {n : Nat} (control : n < 0x20) (rest : List Char) :
    escape ('u' :: '0' :: '0' :: Nat.digitChar (n / 16) :: Nat.digitChar (n % 16) :: rest) =
      .ok (Char.ofNat n, rest) := by
  have high := hexValue?_digitChar ⟨n / 16, by omega⟩
  have low := hexValue?_digitChar ⟨n % 16, by omega⟩
  have zero : hexValue? '0' = some 0 := rfl
  have whole : ((0 * 16 + 0) * 16 + n / 16) * 16 + n % 16 = n := by omega
  have word : hexWord? '0' '0' (Nat.digitChar (n / 16)) (Nat.digitChar (n % 16)) = some n := by
    simp only [hexWord?, zero, high, low, Option.bind_eq_bind, Option.bind_some, Option.pure_def, whole]
  have noLow : ¬ 0xDC00 ≤ n := by omega
  have noHigh : ¬ 0xD800 ≤ n := by omega
  simp [escape, unicodeEscape, hexWord, word, bind, Except.bind, noLow, noHigh, pure, Except.pure]

/-- The ways in which a character is written: behind a backslash as a letter that stands for it, by its
code, or as it is. -/
theorem escapedChar_cases (c : Char) :
    (∃ letter, escapedChar c = ['\\', letter] ∧ ∀ rest, escape (letter :: rest) = .ok (c, rest)) ∨
      (escapedChar c = escapedByte c.toNat ∧ c.toNat < 0x20) ∨
      (escapedChar c = [c] ∧ c ≠ '"' ∧ c ≠ '\\' ∧ ¬ c.toNat < 0x20) := by
  unfold escapedChar
  split
  · subst_vars
    exact .inl ⟨_, rfl, fun _ => rfl⟩
  split
  · subst_vars
    exact .inl ⟨_, rfl, fun _ => rfl⟩
  split
  · subst_vars
    exact .inl ⟨_, rfl, fun _ => rfl⟩
  split
  · subst_vars
    exact .inl ⟨_, rfl, fun _ => rfl⟩
  split
  · subst_vars
    exact .inl ⟨_, rfl, fun _ => rfl⟩
  split
  · subst_vars
    exact .inl ⟨_, rfl, fun _ => rfl⟩
  split
  · subst_vars
    exact .inl ⟨_, rfl, fun _ => rfl⟩
  split
  · next control => exact .inr (.inl ⟨rfl, control⟩)
  · next noQuote noEscape _ _ _ _ _ noControl => exact .inr (.inr ⟨rfl, noQuote, noEscape, noControl⟩)

theorem stringChars_escape {fuel : Nat} {c : Char} {cs rest : List Char}
    (escaped : escape cs = .ok (c, rest)) :
    stringChars (fuel + 1) ('\\' :: cs) =
      (stringChars fuel rest).map fun read => (c :: read.1, read.2) := by
  simp only [stringChars, escaped]
  exact bind_pure_comp _ (stringChars fuel rest)

theorem stringChars_plain {fuel : Nat} {c : Char} {rest : List Char} (noQuote : c ≠ '"')
    (noEscape : c ≠ '\\') (noControl : ¬ c.toNat < 0x20) :
    stringChars (fuel + 1) (c :: rest) =
      (stringChars fuel rest).map fun read => (c :: read.1, read.2) := by
  rw [stringChars]
  · rw [if_neg noControl]
    exact bind_pure_comp _ (stringChars fuel rest)
  · exact noQuote
  · exact noEscape

theorem stringChars_escapedChar (fuel : Nat) (c : Char) (rest : List Char) :
    stringChars (fuel + 1) (escapedChar c ++ rest) =
      (stringChars fuel rest).map fun read => (c :: read.1, read.2) := by
  rcases escapedChar_cases c with ⟨letter, written, escaped⟩ | ⟨written, control⟩ |
    ⟨written, noQuote, noEscape, noControl⟩
  · rw [written]
    exact stringChars_escape (escaped rest)
  · have escaped := escape_escapedByte control rest
    rw [Char.ofNat_toNat] at escaped
    rw [written]
    exact stringChars_escape escaped
  · rw [written]
    exact stringChars_plain noQuote noEscape noControl

theorem stringChars_escaped (cs : List Char) {fuel : Nat} (enough : cs.length < fuel)
    (rest : List Char) :
    stringChars fuel (cs.flatMap escapedChar ++ '"' :: rest) = .ok (cs, rest) := by
  induction cs generalizing fuel with
  | nil =>
      obtain ⟨fuel, rfl⟩ : ∃ less, fuel = less + 1 := ⟨fuel - 1, by simp at enough; omega⟩
      rfl
  | cons c cs ih =>
      obtain ⟨fuel, rfl⟩ : ∃ less, fuel = less + 1 := ⟨fuel - 1, by simp at enough; omega⟩
      have readRest := ih (Nat.lt_of_succ_lt_succ enough)
      rw [List.flatMap_cons, List.append_assoc, stringChars_escapedChar, readRest]
      rfl

theorem stringBody_escaped {size : Nat} (s : String) (enough : s.toList.length < size)
    (rest : List Char) :
    stringBody size (s.toList.flatMap escapedChar ++ '"' :: rest) = .ok (s, rest) := by
  simp only [stringBody, stringChars_escaped s.toList enough rest]
  exact congrArg (fun text => Except.ok (text, rest)) String.ofList_toList

end LiteserverFleet.Json.Reader
