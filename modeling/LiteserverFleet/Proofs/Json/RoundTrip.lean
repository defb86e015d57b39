import LiteserverFleet.Proofs.Json.Tokens

/-!
# Written values read back

The compact and the pretty form differ in the blanks that they set: both are `Value.written` in a style.
A value of integers that a reader could have read is read from any text that is written in a style
(`value_written`), so both its forms parse to the value itself (`parse_compactText`, `parse_prettyText`).  The
members of an object may be written in any order (`parse_compactText_reordered`).
-/

set_option autoImplicit false

namespace LiteserverFleet.Json

open Reader (isBlank skipBlanks Follows)

/-- A value whose numbers are all integers within 64 bits. -/
inductive Value.Integral : Value → Prop where
  | null : Integral .null
  | boolean (b : Bool) : Integral (.boolean b)
  | integer (i : Int) (inRange : -0x8000000000000000 ≤ i ∧ i < 0x10000000000000000) :
      Integral (.number (.integer i inRange))
  | text (s : String) : Integral (.text s)
  | array {items : List Value} (each : ∀ item ∈ items, Integral item) : Integral (.array items)
  | object {members : Members} (each : ∀ member ∈ members, Integral member.2) :
      Integral (.object members)

/-- The blanks of a text: in front of what stands at a depth on a line of its own, and behind a colon. -/
structure Style where
  line : Nat → List Char
  gap : List Char
  blankLine : ∀ depth, ∀ c ∈ line depth, isBlank c = true
  blankGap : ∀ c ∈ gap, isBlank c = true

namespace Style

def compact : Style where
  line _ := []
  gap := []
  blankLine := nofun
  blankGap := nofun

def pretty : Style where
  line := Value.newLine
  gap := [' ']
  blankLine depth := by
    refine List.forall_mem_cons.mpr ⟨rfl, ?_⟩
    intro c member
    rw [List.eq_of_mem_replicate member]
    rfl
  blankGap := by simp [isBlank]

end Style

namespace Value

mutual

/-- The text of a value that stands at a depth, in a style. -/
def written (style : Style) (depth : Nat) : Value → List Char
  | .null => ['n', 'u', 'l', 'l']
  | .boolean b => booleanLiteral b
  | .number n => n.digits
  | .text s => stringLiteral s
  | .array [] => ['[', ']']
  | .array (first :: rest) =>
      '[' :: style.line (depth + 1) ++ first.written style (depth + 1) ++
        writtenItems style (depth + 1) rest ++ style.line depth ++ [']']
  | .object [] => ['{', '}']
  | .object ((key, first) :: rest) =>
      '{' :: style.line (depth + 1) ++ stringLiteral key ++ ':' :: style.gap ++
        first.written style (depth + 1) ++ writtenMembers style (depth + 1) rest ++
        style.line depth ++ ['}']

def writtenItems (style : Style) (depth : Nat) : List Value → List Char
  | [] => []
  | item :: rest =>
      ',' :: style.line depth ++ item.written style depth ++ writtenItems style depth rest

def writtenMembers (style : Style) (depth : Nat) : List (String × Value) → List Char
  | [] => []
  | (key, value) :: rest =>
      ',' :: style.line depth ++ stringLiteral key ++ ':' :: style.gap ++ value.written style depth ++
        writtenMembers style depth rest

end

mutual

theorem compact_eq_written (depth : Nat) : ∀ v : Value, v.compact = v.written .compact depth
  | .null => rfl
  | .boolean b => rfl
  | .number n => rfl
  | .text s => rfl
  | .array [] => rfl
  | .array (first :: rest) => by
      simp [compact, written, Style.compact, compact_eq_written (depth + 1) first,
        compactItems_eq_written (depth + 1) rest]
  | .object [] => rfl
  | .object ((key, first) :: rest) => by
      simp [compact, written, Style.compact, compact_eq_written (depth + 1) first,
        compactMembers_eq_written (depth + 1) rest]

theorem compactItems_eq_written (depth : Nat) :
    ∀ items : List Value, compactItems items = writtenItems .compact depth items
  | [] => rfl
  | item :: rest => by
      simp [compactItems, writtenItems, Style.compact, compact_eq_written depth item,
        compactItems_eq_written depth rest]

theorem compactMembers_eq_written (depth : Nat) :
    ∀ members : List (String × Value), compactMembers members = writtenMembers .compact depth members
  | [] => rfl
  | (key, value) :: rest => by
      simp [compactMembers, writtenMembers, Style.compact, compact_eq_written depth value,
        compactMembers_eq_written depth rest]

end

mutual

theorem prettyAt_eq_written (depth : Nat) : ∀ v : Value, v.prettyAt depth = v.written .pretty depth
  | .null => rfl
  | .boolean b => rfl
  | .number n => rfl
  | .text s => rfl
  | .array [] => rfl
  | .array (first :: rest) => by
      simp [prettyAt, written, Style.pretty, prettyAt_eq_written (depth + 1) first,
        prettyItems_eq_written (depth + 1) rest]
  | .object [] => rfl
  | .object ((key, first) :: rest) => by
      simp [prettyAt, written, Style.pretty, prettyAt_eq_written (depth + 1) first,
        prettyMembers_eq_written (depth + 1) rest]

theorem prettyItems_eq_written (depth : Nat) :
    ∀ items : List Value, prettyItems depth items = writtenItems .pretty depth items
  | [] => rfl
  | item :: rest => by
      simp [prettyItems, writtenItems, Style.pretty, prettyAt_eq_written depth item,
        prettyItems_eq_written depth rest]

theorem prettyMembers_eq_written (depth : Nat) :
    ∀ members : List (String × Value),
      prettyMembers depth members = writtenMembers .pretty depth members
  | [] => rfl
  | (key, value) :: rest => by
      simp [prettyMembers, writtenMembers, Style.pretty, prettyAt_eq_written depth value,
        prettyMembers_eq_written depth rest]

end

/-! ## How texts begin -/

/-- A character with which a value may begin. -/
def Begins (c : Char) : Prop :=
  isBlank c = false ∧ c ≠ ']' ∧ c ≠ '}'

theorem begins_digit {c : Char} (digit : c.isDigit = true) : Begins c := by
  refine ⟨?_, ?_, ?_⟩
  · simp only [isBlank, Bool.or_eq_false_iff, decide_eq_false_iff_not]
    refine ⟨⟨⟨?_, ?_⟩, ?_⟩, ?_⟩ <;> rintro rfl <;> cases digit
  · rintro rfl
    cases digit
  · rintro rfl
    cases digit

theorem begins_integer (i : Int) : ∃ c rest, Number.integerDigits i = c :: rest ∧ Begins c := by
  obtain ⟨d, rest, digits, small, -⟩ := Reader.naturalDigits_head i.natAbs
  unfold Number.integerDigits
  split
  · exact ⟨_, _, rfl, by decide, by decide, by decide⟩
  · exact ⟨_, _, digits, begins_digit (Reader.isDigit_digitChar small)⟩

theorem Integral.begins {v : Value} (integral : v.Integral) (style : Style) (depth : Nat) :
    ∃ c rest, v.written style depth = c :: rest ∧ Begins c := by
  cases integral with
  | null => exact ⟨_, _, rfl, by decide, by decide, by decide⟩
  | boolean b => cases b <;> exact ⟨_, _, rfl, by decide, by decide, by decide⟩
  | integer i inRange => exact begins_integer i
  | text s => exact ⟨_, _, rfl, by decide, by decide, by decide⟩
  | @array items => cases items <;> exact ⟨_, _, rfl, by decide, by decide, by decide⟩
  | @object members => cases members <;> exact ⟨_, _, rfl, by decide, by decide, by decide⟩

end Value

/-! ## Reading -/

namespace Reader

open Value (writtenItems writtenMembers Begins)

/-- A reader reads a value from a text of it, whatever blanks stand in front, and leaves what follows. -/
def Reads (reader : ValueReader) (v : Value) (cs : List Char) : Prop :=
  ∀ blanks rest, (∀ c ∈ blanks, isBlank c = true) → Follows rest →
    reader (blanks ++ (cs ++ rest)) = .ok (v, rest)

theorem skipBlanks_append {blanks : List Char} (blank : ∀ c ∈ blanks, isBlank c = true)
    (cs : List Char) : skipBlanks (blanks ++ cs) = skipBlanks cs := by
  unfold skipBlanks
  rw [List.dropWhile_append_of_pos blank]

theorem skipBlanks_cons {c : Char} (notBlank : isBlank c = false) (cs : List Char) :
    skipBlanks (c :: cs) = c :: cs := by
  simp [skipBlanks, notBlank]

theorem follows_blanks {blanks : List Char} (blank : ∀ c ∈ blanks, isBlank c = true)
    {rest : List Char} (follows : Follows rest) : Follows (blanks ++ rest) := by
  cases blanks with
  | nil => exact follows
  | cons c blanks => exact follows_cons (.inl (blank c List.mem_cons_self))

theorem ok_bind {α β : Type} (a : α) (next : α → Except Stop β) : (.ok a >>= next) = next a :=
  rfl

section Steps

variable {reader : ValueReader} {size fuel : Nat} {cs behind more later rest : List Char} {c : Char}

theorem listItems_last {item : Value} (readItem : reader cs = .ok (item, behind))
    (closing : skipBlanks behind = ']' :: rest) :
    listItems reader (fuel + 1) cs = .ok ([item], rest) := by
  rw [listItems, readItem, ok_bind]
  simp only [closing]
  rfl

theorem listItems_more {item : Value} {items : List Value} (readItem : reader cs = .ok (item, behind))
    (comma : skipBlanks behind = ',' :: more) (next : skipBlanks more = c :: later)
    (notClosing : c ≠ ']') (readRest : listItems reader fuel (c :: later) = .ok (items, rest)) :
    listItems reader (fuel + 1) cs = .ok (item :: items, rest) := by
  rw [listItems, readItem, ok_bind]
  simp only [comma, next]
  split
  · next none => cases none
  · next closing => exact absurd (List.cons.inj closing).1 notClosing
  · rw [readRest]
    rfl

theorem objectMembers_last {entry : String × Value} (readEntry : member size reader cs = .ok (entry, behind))
    (closing : skipBlanks behind = '}' :: rest) :
    objectMembers size reader (fuel + 1) cs = .ok ([entry], rest) := by
  rw [objectMembers, readEntry, ok_bind]
  simp only [closing]
  rfl

theorem objectMembers_more {entry : String × Value} {entries : List (String × Value)}
    (readEntry : member size reader cs = .ok (entry, behind)) (comma : skipBlanks behind = ',' :: more)
    (next : skipBlanks more = c :: later) (notClosing : c ≠ '}')
    (readRest : objectMembers size reader fuel (c :: later) = .ok (entries, rest)) :
    objectMembers size reader (fuel + 1) cs = .ok (entry :: entries, rest) := by
  rw [objectMembers, readEntry, ok_bind]
  simp only [comma, next]
  split
  · next none => cases none
  · next closing => exact absurd (List.cons.inj closing).1 notClosing
  · rw [readRest]
    rfl

end Steps

section Written

variable {style : Style} {depth : Nat} {reader : ValueReader} (outer : Nat)

theorem writtenItems_cons (item : Value) (items : List Value) (rest : List Char) :
    writtenItems style depth (item :: items) ++ rest =
      ',' :: (style.line depth ++ (item.written style depth ++ (writtenItems style depth items ++ rest))) := by
  simp [writtenItems]

theorem listItems_written {first : Value} {items : List Value}
    (integral : ∀ item ∈ first :: items, item.Integral)
    (each : ∀ item ∈ first :: items, Reads reader item (item.written style depth)) {fuel : Nat}
    (enough : items.length < fuel) (rest : List Char) :
    listItems reader fuel (first.written style depth ++
        (writtenItems style depth items ++ (style.line outer ++ ']' :: rest))) =
      .ok (first :: items, rest) := by
  obtain ⟨fuel, rfl⟩ : ∃ less, fuel = less + 1 := ⟨fuel - 1, by omega⟩
  have readFirst := each first List.mem_cons_self []
  induction items generalizing first fuel with
  | nil =>
      have follows : Follows (style.line outer ++ ']' :: rest) :=
        follows_blanks (style.blankLine outer) (follows_cons (by simp))
      exact listItems_last (readFirst _ nofun follows) (skipBlanks_append (style.blankLine outer) _)
  | cons second items ih =>
      obtain ⟨integralFirst, integralRest⟩ := List.forall_mem_cons.mp integral
      obtain ⟨-, eachRest⟩ := List.forall_mem_cons.mp each
      obtain ⟨less, rfl⟩ : ∃ less, fuel = less + 1 := ⟨fuel - 1, by simp at enough; omega⟩
      have readRest := ih integralRest eachRest less (by simpa using enough)
        (eachRest second List.mem_cons_self [])
      obtain ⟨c, text, begin, notBlank, notClosing, -⟩ :=
        (integralRest second List.mem_cons_self).begins style depth
      rw [writtenItems_cons]
      rw [begin, List.cons_append] at readRest ⊢
      refine listItems_more (readFirst _ nofun ?_) (skipBlanks_cons rfl _) ?_ notClosing readRest
      · exact follows_cons (.inr (.inl rfl))
      · rw [skipBlanks_append (style.blankLine depth), skipBlanks_cons notBlank]

theorem writtenMembers_cons (key : String) (value : Value) (members : Members) (rest : List Char) :
    writtenMembers style depth ((key, value) :: members) ++ rest =
      ',' :: (style.line depth ++ ('"' :: (key.toList.flatMap escapedChar ++ '"' :: ':' :: (style.gap ++
        (value.written style depth ++ (writtenMembers style depth members ++ rest)))))) := by
  simp [writtenMembers, stringLiteral]

theorem member_written {size : Nat} {key : String} {value : Value} (short : key.toList.length < size)
    (reads : Reads reader value (value.written style depth)) {rest : List Char} (follows : Follows rest) :
    member size reader ('"' :: (key.toList.flatMap escapedChar ++ '"' :: ':' :: (style.gap ++
        (value.written style depth ++ rest)))) =
      .ok ((key, value), rest) := by
  rw [member, stringBody_escaped key short, ok_bind]
  simp only [skipBlanks_cons (show isBlank ':' = false from rfl)]
  rw [reads _ _ style.blankGap follows]
  rfl

theorem objectMembers_written {size : Nat} {key : String} {first : Value} {members : Members}
    (short : ∀ member ∈ (key, first) :: members, member.1.toList.length < size)
    (each : ∀ member ∈ (key, first) :: members, Reads reader member.2 (member.2.written style depth))
    {fuel : Nat} (enough : members.length < fuel) (rest : List Char) :
    objectMembers size reader fuel ('"' :: (key.toList.flatMap escapedChar ++ '"' :: ':' :: (style.gap ++
        (first.written style depth ++
          (writtenMembers style depth members ++ (style.line outer ++ '}' :: rest)))))) =
      .ok ((key, first) :: members, rest) := by
  obtain ⟨fuel, rfl⟩ : ∃ less, fuel = less + 1 := ⟨fuel - 1, by omega⟩
  obtain ⟨shortFirst, shortRest⟩ := List.forall_mem_cons.mp short
  obtain ⟨eachFirst, eachRest⟩ := List.forall_mem_cons.mp each
  induction members generalizing key first fuel with
  | nil =>
      have follows : Follows (style.line outer ++ '}' :: rest) :=
        follows_blanks (style.blankLine outer) (follows_cons (by simp))
      exact objectMembers_last (member_written shortFirst eachFirst follows)
        (skipBlanks_append (style.blankLine outer) _)
  | cons second members ih =>
      obtain ⟨nextKey, second⟩ := second
      obtain ⟨less, rfl⟩ : ∃ less, fuel = less + 1 := ⟨fuel - 1, by simp at enough; omega⟩
      obtain ⟨shortSecond, shortOthers⟩ := List.forall_mem_cons.mp shortRest
      obtain ⟨eachSecond, eachOthers⟩ := List.forall_mem_cons.mp eachRest
      have readRest := ih shortRest eachRest less (by simpa using enough) shortSecond shortOthers
        eachSecond eachOthers
      rw [writtenMembers_cons]
      refine objectMembers_more (member_written shortFirst eachFirst ?_) (skipBlanks_cons rfl _) ?_
        (by decide) readRest
      · exact follows_cons (.inr (.inl rfl))
      · rw [skipBlanks_append (style.blankLine depth), skipBlanks_cons rfl]

/-! ### Whole values -/

theorem length_le_stringLiteral (s : String) : s.toList.length + 2 ≤ (stringLiteral s).length := by
  have longer (cs : List Char) : cs.length ≤ (cs.flatMap escapedChar).length := by
    induction cs with
    | nil => exact Nat.le_refl _
    | cons c cs ih =>
        have written : 0 < (escapedChar c).length := by
          rcases escapedChar_cases c with ⟨letter, written, -⟩ | ⟨written, -⟩ | ⟨written, -⟩ <;>
            simp [written, escapedByte]
        simp only [List.flatMap_cons, List.length_append, List.length_cons]
        omega
  have := longer s.toList
  simp only [stringLiteral, List.length_append, List.length_cons, List.length_nil]
  omega

theorem length_le_writtenItems (style : Style) (depth : Nat) (items : List Value) :
    items.length ≤ (writtenItems style depth items).length ∧
      ∀ item ∈ items, (item.written style depth).length ≤ (writtenItems style depth items).length := by
  induction items with
  | nil => exact ⟨Nat.le_refl _, nofun⟩
  | cons item items ih =>
      obtain ⟨many, each⟩ := ih
      simp only [writtenItems, List.length_append, List.length_cons]
      refine ⟨by omega, List.forall_mem_cons.mpr ⟨by omega, ?_⟩⟩
      intro other member
      have := each other member
      omega

theorem length_le_writtenMembers (style : Style) (depth : Nat) (members : Members) :
    members.length ≤ (writtenMembers style depth members).length ∧
      ∀ member ∈ members, member.1.toList.length < (writtenMembers style depth members).length ∧
        (member.2.written style depth).length ≤ (writtenMembers style depth members).length := by
  induction members with
  | nil => exact ⟨Nat.le_refl _, nofun⟩
  | cons first members ih =>
      obtain ⟨many, each⟩ := ih
      have key := length_le_stringLiteral first.1
      simp only [writtenMembers, List.length_append, List.length_cons]
      refine ⟨by omega, List.forall_mem_cons.mpr ⟨⟨by omega, by omega⟩, ?_⟩⟩
      intro other member
      have := each other member
      omega

variable {size : Nat} {nested : Option ValueReader}

theorem valueWith_blanks {blanks : List Char} (blank : ∀ c ∈ blanks, isBlank c = true) (cs : List Char) :
    valueWith size nested (blanks ++ cs) = valueWith size nested cs := by
  rw [valueWith, skipBlanks_append blank]
  rfl

theorem valueWith_digit {c : Char} (digit : c.isDigit = true) {cs rest : List Char} {n : Number}
    (read : numberPart true (c :: cs) = .ok (n, rest)) :
    valueWith size nested (c :: cs) = .ok (.number n, rest) := by
  rw [valueWith, skipBlanks_cons (Value.begins_digit digit).1]
  split
  case h_1 none => cases none
  case h_9 same =>
    obtain ⟨rfl, rfl⟩ := List.cons.inj same
    rw [if_pos digit, read]
    rfl
  all_goals
    next same =>
    obtain ⟨rfl, -⟩ := List.cons.inj same
    cases digit

theorem valueWith_minus {cs rest : List Char} {n : Number} (read : numberPart false cs = .ok (n, rest)) :
    valueWith size nested ('-' :: cs) = .ok (.number n, rest) := by
  change (numberPart false cs >>= fun read => pure (Value.number read.1, read.2)) = _
  rw [read]
  rfl

theorem valueWith_integer (i : Int) (inRange : -0x8000000000000000 ≤ i ∧ i < 0x10000000000000000)
    {rest : List Char} (follows : Follows rest) :
    valueWith size nested (Number.integerDigits i ++ rest) =
      .ok (.number (.integer i inRange), rest) := by
  have word : i.natAbs ≤ greatestWord := by
    unfold greatestWord
    omega
  by_cases negative : i < 0
  · have whole : wholeNumber false i.natAbs = .integer i inRange := by
      have small : 0 < i.natAbs ∧ i.natAbs ≤ 0x8000000000000000 := by omega
      have same : -(i.natAbs : Int) = i := by omega
      simp only [wholeNumber, Bool.false_eq_true, if_false, dif_pos small, same]
    have read := numberPart_naturalDigits false word follows
    rw [whole] at read
    rw [Number.integerDigits, if_pos negative]
    exact valueWith_minus read
  · have whole : wholeNumber true i.natAbs = .integer i inRange := by
      have same : (i.natAbs : Int) = i := by omega
      simp only [wholeNumber, if_true, same, dif_pos inRange.2]
    have read := numberPart_naturalDigits true word follows
    obtain ⟨d, digits, isDigits, small, -⟩ := naturalDigits_head i.natAbs
    rw [whole] at read
    rw [Number.integerDigits, if_neg negative]
    rw [isDigits, List.cons_append] at read ⊢
    exact valueWith_digit (isDigit_digitChar small) read

theorem listBody_written {first : Value} {items : List Value}
    (integral : ∀ item ∈ first :: items, item.Integral)
    (each : ∀ item ∈ first :: items, Reads reader item (item.written style depth))
    (enough : items.length < size) (rest : List Char) :
    listBody size reader (style.line depth ++ (first.written style depth ++
        (writtenItems style depth items ++ (style.line outer ++ ']' :: rest)))) =
      .ok (.array (first :: items), rest) := by
  have readItems := listItems_written outer integral each enough rest
  obtain ⟨c, text, begin, notBlank, notClosing, -⟩ :=
    (integral first List.mem_cons_self).begins style depth
  rw [begin, List.cons_append] at readItems ⊢
  rw [listBody, skipBlanks_append (style.blankLine depth), skipBlanks_cons notBlank]
  split
  · next none => cases none
  · next closing => exact absurd (List.cons.inj closing).1 notClosing
  · rw [readItems]
    rfl

theorem objectBody_written {key : String} {first : Value} {members : Members}
    (short : ∀ member ∈ (key, first) :: members, member.1.toList.length < size)
    (each : ∀ member ∈ (key, first) :: members, Reads reader member.2 (member.2.written style depth))
    (enough : members.length < size) (rest : List Char) :
    objectBody size reader (style.line depth ++ ('"' :: (key.toList.flatMap escapedChar ++ '"' :: ':' ::
        (style.gap ++ (first.written style depth ++
          (writtenMembers style depth members ++ (style.line outer ++ '}' :: rest))))))) =
      .ok (.object (Members.ofList ((key, first) :: members)), rest) := by
  have readMembers := objectMembers_written outer short each enough rest
  rw [objectBody, skipBlanks_append (style.blankLine depth), skipBlanks_cons rfl]
  split
  · next none => cases none
  · next closing => exact absurd (List.cons.inj closing).1 (by decide)
  · rw [readMembers]
    rfl

theorem valueWith_text {s : String} (short : s.toList.length < size) (rest : List Char) :
    valueWith size nested (stringLiteral s ++ rest) = .ok (.text s, rest) := by
  have literal : stringLiteral s ++ rest = '"' :: (s.toList.flatMap escapedChar ++ '"' :: rest) := by
    simp [stringLiteral]
  rw [literal]
  change (stringBody size (s.toList.flatMap escapedChar ++ '"' :: rest) >>=
    fun read => pure (Value.text read.1, read.2)) = _
  rw [stringBody_escaped s short]
  rfl

theorem valueWith_boolean (b : Bool) (rest : List Char) :
    valueWith size nested (booleanLiteral b ++ rest) = .ok (.boolean b, rest) := by
  cases b <;> rfl

end Written

theorem reads_of_valueWith {size depth : Nat} {v : Value} {cs : List Char}
    (read : ∀ nested rest, Follows rest → valueWith size nested (cs ++ rest) = .ok (v, rest)) :
    Reads (value size depth) v cs := by
  intro blanks rest blank follows
  cases depth with
  | zero => exact (valueWith_blanks blank _).trans (read none rest follows)
  | succ depth => exact (valueWith_blanks blank _).trans (read (some (value size depth)) rest follows)

section Containers

variable (style : Style) (column : Nat) {size depth : Nat}

theorem length_le_array (items : List Value) :
    items.length < ((Value.array items).written style column).length ∧
      ∀ item ∈ items, (item.written style (column + 1)).length ≤
        ((Value.array items).written style column).length := by
  cases items with
  | nil => exact ⟨Nat.zero_lt_two, nofun⟩
  | cons first items =>
      obtain ⟨many, shorter⟩ := length_le_writtenItems style (column + 1) items
      simp only [Value.written, List.length_append, List.length_cons, List.length_nil]
      refine ⟨by omega, List.forall_mem_cons.mpr ⟨by omega, ?_⟩⟩
      intro item later
      have := shorter item later
      omega

theorem length_le_object (members : Members) :
    members.length < ((Value.object members).written style column).length ∧
      ∀ member ∈ members, member.1.toList.length < ((Value.object members).written style column).length ∧
        (member.2.written style (column + 1)).length ≤
          ((Value.object members).written style column).length := by
  cases members with
  | nil => exact ⟨Nat.zero_lt_two, nofun⟩
  | cons first members =>
      obtain ⟨many, shorter⟩ := length_le_writtenMembers style (column + 1) members
      have keyLonger := length_le_stringLiteral first.1
      simp only [Value.written, List.length_append, List.length_cons, List.length_nil]
      refine ⟨by omega, List.forall_mem_cons.mpr ⟨⟨by omega, by omega⟩, ?_⟩⟩
      intro member later
      have := shorter member later
      omega

theorem array_written {items : List Value} (integral : ∀ item ∈ items, item.Integral)
    (each : ∀ item ∈ items, Reads (value size depth) item (item.written style (column + 1)))
    (enough : ((Value.array items).written style column).length ≤ size) :
    Reads (value size (depth + 1)) (.array items) ((Value.array items).written style column) := by
  have few := Nat.lt_of_lt_of_le (length_le_array style column items).1 enough
  intro blanks rest blank follows
  refine (valueWith_blanks blank _).trans ?_
  cases items with
  | nil => rfl
  | cons first items =>
      have body := listBody_written column integral each (Nat.lt_of_succ_lt few) rest
      have text : (Value.array (first :: items)).written style column ++ rest =
          '[' :: (style.line (column + 1) ++ (first.written style (column + 1) ++
            (writtenItems style (column + 1) items ++ (style.line column ++ ']' :: rest)))) := by
        simp [Value.written]
      rw [text]
      exact body

/-- Members may be written in any order: what is read has them in ascending order. -/
theorem object_written {members : Members}
    (each : ∀ member ∈ members, Reads (value size depth) member.2 (member.2.written style (column + 1)))
    (enough : ((Value.object members).written style column).length ≤ size) :
    Reads (value size (depth + 1)) (.object (Members.ofList members))
      ((Value.object members).written style column) := by
  obtain ⟨fewer, shorter⟩ := length_le_object style column members
  have few := Nat.lt_of_lt_of_le fewer enough
  have short : ∀ member ∈ members, member.1.toList.length < size := by
    intro member present
    exact Nat.lt_of_lt_of_le (shorter member present).1 enough
  intro blanks rest blank follows
  refine (valueWith_blanks blank _).trans ?_
  cases members with
  | nil => rfl
  | cons first members =>
      obtain ⟨key, first⟩ := first
      have body := objectBody_written column short each (Nat.lt_of_succ_lt few) rest
      have text : (Value.object ((key, first) :: members)).written style column ++ rest =
          '{' :: (style.line (column + 1) ++ ('"' :: (key.toList.flatMap escapedChar ++ '"' :: ':' ::
            (style.gap ++ (first.written style (column + 1) ++
              (writtenMembers style (column + 1) members ++ (style.line column ++ '}' :: rest))))))) := by
        simp [Value.written, stringLiteral]
      rw [text]
      exact body

theorem object_reordered {members ordered : Members} (perm : members.Perm ordered)
    (ascending : ordered.Ascending)
    (each : ∀ member ∈ ordered, (member.2.written style (column + 1)).length ≤ size →
      Reads (value size depth) member.2 (member.2.written style (column + 1)))
    (enough : ((Value.object members).written style column).length ≤ size) :
    Reads (value size (depth + 1)) (.object ordered) ((Value.object members).written style column) := by
  obtain ⟨-, shorter⟩ := length_le_object style column members
  have reads : ∀ member ∈ members,
      Reads (value size depth) member.2 (member.2.written style (column + 1)) := by
    intro member present
    exact each member (perm.mem_iff.mp present) (Nat.le_trans (shorter member present).2 enough)
  have whole := object_written style column reads enough
  rwa [Members.ofList_of_perm ascending perm] at whole

/-- A value of integers is read from what is written, if the reader goes as deep as the value. -/
theorem value_written {v : Value} (within : v.Within depth) (integral : v.Integral)
    (enough : (v.written style column).length ≤ size) :
    Reads (value size depth) v (v.written style column) := by
  induction within generalizing column with
  | null => exact reads_of_valueWith fun nested rest _ => rfl
  | boolean b => exact reads_of_valueWith fun nested rest _ => valueWith_boolean b rest
  | number n =>
      cases integral with
      | integer i inRange =>
          exact reads_of_valueWith fun nested rest follows => valueWith_integer i inRange follows
  | text s =>
      have longer := length_le_stringLiteral s
      have whole : (stringLiteral s).length ≤ size := enough
      exact reads_of_valueWith fun nested rest _ => valueWith_text (by omega) rest
  | @array depth items each ih =>
      have integralItems : ∀ item ∈ items, item.Integral := by
        cases integral
        assumption
      obtain ⟨-, shorter⟩ := length_le_array style column items
      refine array_written style column integralItems ?_ enough
      intro item member
      exact ih item member (column + 1) (integralItems item member)
        (Nat.le_trans (shorter item member) enough)
  | @object depth members ascending each ih =>
      have integralMembers : ∀ member ∈ members, member.2.Integral := by
        cases integral
        assumption
      refine object_reordered style column (.refl members) ascending ?_ enough
      intro member present short
      exact ih member present (column + 1) (integralMembers member present) short

/-- What is written with its members in another order is read as the object that has them in ascending order. -/
theorem value_reordered {members ordered : Members} (perm : members.Perm ordered)
    (within : (Value.object ordered).Within depth) (integral : (Value.object ordered).Integral)
    (enough : ((Value.object members).written style column).length ≤ size) :
    Reads (value size depth) (.object ordered) ((Value.object members).written style column) := by
  cases within with
  | object ascending each =>
      have integralMembers : ∀ member ∈ ordered, member.2.Integral := by
        cases integral
        assumption
      refine object_reordered style column perm ascending ?_ enough
      intro member present short
      exact value_written style (column + 1) (each member present) (integralMembers member present) short

end Containers

theorem document_of_reads {v : Value} {cs : List Char}
    (reads : Reads (value (cs.length + 1) greatestDepth) v cs) : document cs = .ok v := by
  have read := reads [] [] nofun follows_nil
  simp only [List.nil_append, List.append_nil] at read
  rw [document, read]
  rfl

end Reader

section RoundTrip

variable {v w : Value}

theorem parse_of_compact (read : Reader.document (v.written .compact 0) = .ok w) :
    parse v.compactText = .ok w := by
  rw [← Value.compact_eq_written] at read
  simp only [parse, Value.compactText, String.toList_ofList, read]
  rfl

theorem parse_compactText (within : v.Within Reader.greatestDepth) (integral : v.Integral) :
    parse v.compactText = .ok v :=
  parse_of_compact (Reader.document_of_reads
    (Reader.value_written .compact 0 within integral (Nat.le_succ _)))

theorem parse_compactText_reordered {members ordered : Members} (perm : members.Perm ordered)
    (within : (Value.object ordered).Within Reader.greatestDepth)
    (integral : (Value.object ordered).Integral) :
    parse (Value.object members).compactText = .ok (.object ordered) :=
  parse_of_compact (Reader.document_of_reads
    (Reader.value_reordered .compact 0 perm within integral (Nat.le_succ _)))

theorem parse_prettyText (within : v.Within Reader.greatestDepth) (integral : v.Integral) :
    parse v.prettyText = .ok v := by
  have read := Reader.document_of_reads
    (Reader.value_written .pretty 0 within integral (Nat.le_succ _))
  rw [← Value.prettyAt_eq_written] at read
  simp only [parse, Value.prettyText, String.toList_ofList, read]
  rfl

theorem within_of_parse {text : String} (read : parse text = .ok v) : v.Within Reader.greatestDepth :=
  Reader.document_within (mapError_eq_ok_iff.mp read)

end RoundTrip

end LiteserverFleet.Json
