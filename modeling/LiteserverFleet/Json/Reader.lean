import LiteserverFleet.Json.Value
import LiteserverFleet.Json.SyntaxError
import LiteserverFleet.Text.Utf8

/-!
# Reading JSON

A reader takes the characters that are left and returns what it read with the characters behind it, or
stops.  A stop remembers how many bytes of the text lie behind the place it reports; most stops report the
byte at which they stand, a few the byte they have just taken.

The depth of nesting is an argument: it is the measure on which the readers of values recur, and the limit that
the format sets.  The loops inside strings, lists and objects take at least one character a turn, so
the number of characters of the whole text bounds each of them; it is handed down as `size`.
-/

set_option autoImplicit false

namespace LiteserverFleet.Json

/-- Where and why a reader gave up. -/
structure Stop where
  reason : Reason
  /-- The bytes of the text behind the reported place. -/
  unread : Nat

abbrev ValueReader := List Char → Except Stop (Value × List Char)

namespace Reader

open LiteserverFleet.Text (byteCount)

/-- A stop that reports the byte in front of it, or the end of the text. -/
def stopAt {α : Type} (reason : Reason) (rest : List Char) : Except Stop (α × List Char) :=
  .error ⟨reason, byteCount rest - 1⟩

def stopBehind {α : Type} (reason : Reason) (rest : List Char) : Except Stop (α × List Char) :=
  .error ⟨reason, byteCount rest⟩

def stopAtEnd {α : Type} (reason : Reason) : Except Stop (α × List Char) :=
  .error ⟨reason, 0⟩

def isBlank (c : Char) : Bool :=
  c = ' ' || c = '\n' || c = '\t' || c = '\r'

def skipBlanks (cs : List Char) : List Char :=
  cs.dropWhile isBlank

def literal (result : Value) : List Char → List Char → Except Stop (Value × List Char)
  | [], cs => .ok (result, cs)
  | _ :: _, [] => stopAtEnd .unfinishedValue
  | expected :: letters, c :: cs =>
      if c = expected then literal result letters cs else stopAt .expectedLiteral (c :: cs)

/-! ## Numbers -/

def digitValue (c : Char) : Nat :=
  c.toNat - '0'.toNat

/-- Appends digits to a number as long as it stays within a limit.  Returns the number, how many digits went
into it, and what follows; a digit there would have exceeded the limit. -/
def appendDigits (limit : Nat) (number taken : Nat) : List Char → Nat × Nat × List Char
  | [] => (number, taken, [])
  | c :: cs =>
      if c.isDigit && number * 10 + digitValue c ≤ limit then
        appendDigits limit (number * 10 + digitValue c) (taken + 1) cs
      else (number, taken, c :: cs)

def greatestWord : Nat := 0xFFFFFFFFFFFFFFFF

def greatestExponent : Nat := 0x7FFFFFFF

def binaryNumber (positive : Bool) (kept : Nat) (exponent : Int) (rest : List Char) :
    Except Stop (Number × List Char) :=
  match (Binary64.Magnitude.nearest kept 1).shiftDecimal? exponent with
  | some magnitude => .ok (.binary ⟨!positive, magnitude⟩, rest)
  | none => stopBehind .numberOutOfRange rest

/-- Reads an exponent behind its mark.

An exponent beyond 31 bits makes zero of a number unless it is positive and the number is not zero. -/
def exponentPart (positive : Bool) (kept : Nat) (scale : Int) (cs : List Char) : Except Stop (Number × List Char) :=
  let (upwards, cs) := match cs with
    | '+' :: rest => (true, rest)
    | '-' :: rest => (false, rest)
    | _ => (true, cs)
  match cs with
  | [] => stopAtEnd .unfinishedValue
  | c :: rest =>
      if !c.isDigit then stopAt .invalidNumber (c :: rest)
      else
        let (exponent, _, rest) := appendDigits greatestExponent 0 0 (c :: rest)
        match rest with
        | d :: behind =>
            if d.isDigit then
              if kept ≠ 0 && upwards then stopBehind .numberOutOfRange behind
              else .ok (.binary ⟨!positive, .nearest 0 1⟩, behind.dropWhile Char.isDigit)
            else
              binaryNumber positive kept (if upwards then scale + exponent else scale - exponent) rest
        | [] => binaryNumber positive kept (if upwards then scale + exponent else scale - exponent) []

def exponentOrEnd (positive : Bool) (kept : Nat) (scale : Int) : List Char → Except Stop (Number × List Char)
  | 'e' :: rest => exponentPart positive kept scale rest
  | 'E' :: rest => exponentPart positive kept scale rest
  | rest => binaryNumber positive kept scale rest

/-- Reads a fraction behind its point.  Digits that no longer fit into 64 bits are dropped. -/
def fractionPart (positive : Bool) (whole : Nat) (scale : Int) (cs : List Char) : Except Stop (Number × List Char) :=
  let (kept, taken, rest) := appendDigits greatestWord whole 0 cs
  match rest with
  | [] =>
      if taken = 0 then stopAtEnd .unfinishedValue
      else exponentOrEnd positive kept (scale - taken) []
  | c :: behind =>
      if c.isDigit then exponentOrEnd positive kept (scale - taken) (behind.dropWhile Char.isDigit)
      else if taken = 0 then stopAt .invalidNumber (c :: behind)
      else exponentOrEnd positive kept (scale - taken) (c :: behind)

/-- A number without fraction and exponent: an integer where 64 bits hold it.  Zero with a minus sign is a
binary64 number, as no integer has that sign. -/
def wholeNumber (positive : Bool) (n : Nat) : Number :=
  if positive then
    if inRange : (n : Int) < 0x10000000000000000 then .integer n (by omega)
    else .binary ⟨false, .nearest n 1⟩
  else if inRange : 0 < n ∧ n ≤ 0x8000000000000000 then .integer (-n) (by omega)
  else .binary ⟨true, .nearest n 1⟩

/-- Reads a number behind its sign.  Digits of the whole part that no longer fit into 64 bits are dropped,
each of them counting a power of ten. -/
def numberPart (positive : Bool) (cs : List Char) : Except Stop (Number × List Char) :=
  match cs with
  | [] => stopAtEnd .unfinishedValue
  | c :: rest =>
      if !c.isDigit then stopAt .invalidNumber (c :: rest)
      else
        let leadingZero := c = '0' && (rest.head?.any Char.isDigit)
        if leadingZero then stopAt .invalidNumber rest
        else
          let (whole, _, rest) := appendDigits greatestWord 0 0 (c :: rest)
          let dropped := rest.takeWhile Char.isDigit
          match rest.dropWhile Char.isDigit with
          | '.' :: behind => fractionPart positive whole dropped.length behind
          | 'e' :: behind => exponentPart positive whole dropped.length behind
          | 'E' :: behind => exponentPart positive whole dropped.length behind
          | behind =>
              if dropped.isEmpty then .ok (wholeNumber positive whole, behind)
              else binaryNumber positive whole dropped.length behind

/-! ## Strings -/

def hexValue? (c : Char) : Option Nat :=
  if c.isDigit then some (c.toNat - '0'.toNat)
  else if 'a' ≤ c && c ≤ 'f' then some (c.toNat - 'a'.toNat + 10)
  else if 'A' ≤ c && c ≤ 'F' then some (c.toNat - 'A'.toNat + 10)
  else none

def hexWord? (a b c d : Char) : Option Nat := do
  let a ← hexValue? a
  let b ← hexValue? b
  let c ← hexValue? c
  let d ← hexValue? d
  pure (((a * 16 + b) * 16 + c) * 16 + d)

/-- The bytes of a hexadecimal escape behind its mark are taken four at once, whatever they are. -/
def stopInHexWord {α : Type} (cs : List Char) : Except Stop (α × List Char) :=
  if byteCount cs < 4 then stopAtEnd .unfinishedString
  else .error ⟨.invalidEscape, byteCount cs - 4⟩

def hexWord : List Char → Except Stop (Nat × List Char)
  | a :: b :: c :: d :: rest =>
      match hexWord? a b c d with
      | some n => .ok (n, rest)
      | none => stopInHexWord (a :: b :: c :: d :: rest)
  | cs => stopInHexWord cs

def lowSurrogate (high : Nat) : List Char → Except Stop (Char × List Char)
  | [] => stopAtEnd .unfinishedString
  | '\\' :: 'u' :: rest => do
      let (low, rest) ← hexWord rest
      if 0xDC00 ≤ low && low ≤ 0xDFFF then
        pure (Char.ofNat ((high - 0xD800) * 0x400 + (low - 0xDC00) + 0x10000), rest)
      else stopBehind .unpairedSurrogate rest
  | '\\' :: [] => stopAtEnd .unfinishedString
  | '\\' :: rest => stopAt .unfinishedSurrogatePair rest
  | rest => stopAt .unfinishedSurrogatePair rest

/-- Reads the code behind a `u`: one word, or two that form a surrogate pair. -/
def unicodeEscape (cs : List Char) : Except Stop (Char × List Char) := do
  let (word, rest) ← hexWord cs
  if 0xDC00 ≤ word && word ≤ 0xDFFF then stopBehind .unpairedSurrogate rest
  else if 0xD800 ≤ word && word ≤ 0xDBFF then lowSurrogate word rest
  else pure (Char.ofNat word, rest)

def escape : List Char → Except Stop (Char × List Char)
  | [] => stopAtEnd .unfinishedString
  | '"' :: rest => .ok ('"', rest)
  | '\\' :: rest => .ok ('\\', rest)
  | '/' :: rest => .ok ('/', rest)
  | 'b' :: rest => .ok ('\x08', rest)
  | 'f' :: rest => .ok ('\x0C', rest)
  | 'n' :: rest => .ok ('\n', rest)
  | 'r' :: rest => .ok ('\r', rest)
  | 't' :: rest => .ok ('\t', rest)
  | 'u' :: rest => unicodeEscape rest
  | rest => stopAt .invalidEscape rest

def stringChars : Nat → List Char → Except Stop (List Char × List Char)
  | 0, _ => stopAtEnd .unfinishedString
  | _ + 1, [] => stopAtEnd .unfinishedString
  | _ + 1, '"' :: rest => .ok ([], rest)
  | fuel + 1, '\\' :: rest => do
      let (c, rest) ← escape rest
      let (cs, rest) ← stringChars fuel rest
      pure (c :: cs, rest)
  | fuel + 1, c :: rest =>
      if c.toNat < 0x20 then stopAt .controlCharacter (c :: rest)
      else do
        let (cs, rest) ← stringChars fuel rest
        pure (c :: cs, rest)

def stringBody (size : Nat) (cs : List Char) : Except Stop (String × List Char) := do
  let (chars, rest) ← stringChars size cs
  pure (String.ofList chars, rest)

/-! ## Containers -/

/-- Reads the elements of a list from the first one on, up to and including the closing bracket. -/
def listItems (value : ValueReader) : Nat → List Char → Except Stop (List Value × List Char)
  | 0, _ => stopAtEnd .unfinishedList
  | fuel + 1, cs => do
      let (item, rest) ← value cs
      match skipBlanks rest with
      | [] => stopAtEnd .unfinishedList
      | ']' :: rest => pure ([item], rest)
      | ',' :: rest =>
          match skipBlanks rest with
          | [] => stopAtEnd .unfinishedValue
          | ']' :: rest => stopAt .trailingComma (']' :: rest)
          | rest => do
              let (items, rest) ← listItems value fuel rest
              pure (item :: items, rest)
      | rest => stopAt .expectedListSeparator rest

def listBody (size : Nat) (value : ValueReader) (cs : List Char) :
    Except Stop (Value × List Char) :=
  match skipBlanks cs with
  | [] => stopAtEnd .unfinishedList
  | ']' :: rest => .ok (.array [], rest)
  | rest => do
      let (items, rest) ← listItems value size rest
      pure (.array items, rest)

def member (size : Nat) (value : ValueReader) :
    List Char → Except Stop ((String × Value) × List Char)
  | '"' :: rest => do
      let (key, rest) ← stringBody size rest
      match skipBlanks rest with
      | [] => stopAtEnd .unfinishedObject
      | ':' :: rest => do
          let (v, rest) ← value rest
          pure ((key, v), rest)
      | rest => stopAt .expectedColon rest
  | rest => stopAt .keyNotString rest

def objectMembers (size : Nat) (value : ValueReader) :
    Nat → List Char → Except Stop (List (String × Value) × List Char)
  | 0, _ => stopAtEnd .unfinishedObject
  | fuel + 1, cs => do
      let (entry, rest) ← member size value cs
      match skipBlanks rest with
      | [] => stopAtEnd .unfinishedObject
      | '}' :: rest => pure ([entry], rest)
      | ',' :: rest =>
          match skipBlanks rest with
          | [] => stopAtEnd .unfinishedValue
          | '}' :: rest => stopAt .trailingComma ('}' :: rest)
          | rest => do
              let (entries, rest) ← objectMembers size value fuel rest
              pure (entry :: entries, rest)
      | rest => stopAt .expectedObjectSeparator rest

/-- Reads an object behind its opening brace; its members come out in ascending order of keys. -/
def objectBody (size : Nat) (value : ValueReader) (cs : List Char) :
    Except Stop (Value × List Char) :=
  match skipBlanks cs with
  | [] => stopAtEnd .unfinishedObject
  | '}' :: rest => .ok (.object [], rest)
  | rest => do
      let (entries, rest) ← objectMembers size value size rest
      pure (.object (Members.ofList entries), rest)

/-- Reads a value whose containers are read by `nested`; without it, no container may open. -/
def valueWith (size : Nat) (nested : Option ValueReader) (cs : List Char) :
    Except Stop (Value × List Char) :=
  match skipBlanks cs with
  | [] => stopAtEnd .unfinishedValue
  | 'n' :: rest => literal .null ['u', 'l', 'l'] rest
  | 't' :: rest => literal (.boolean true) ['r', 'u', 'e'] rest
  | 'f' :: rest => literal (.boolean false) ['a', 'l', 's', 'e'] rest
  | '-' :: rest => do
      let (n, rest) ← numberPart false rest
      pure (.number n, rest)
  | '"' :: rest => do
      let (s, rest) ← stringBody size rest
      pure (.text s, rest)
  | '[' :: rest =>
      match nested with
      | none => stopAt .nestedTooDeeply ('[' :: rest)
      | some value => listBody size value rest
  | '{' :: rest =>
      match nested with
      | none => stopAt .nestedTooDeeply ('{' :: rest)
      | some value => objectBody size value rest
  | c :: rest =>
      if c.isDigit then do
        let (n, rest) ← numberPart true (c :: rest)
        pure (.number n, rest)
      else stopAt .expectedValue (c :: rest)

/-- Reads a value in which containers are nested at most `depth` deep. -/
def value (size : Nat) : Nat → ValueReader
  | 0 => valueWith size none
  | depth + 1 => valueWith size (some (value size depth))

def greatestDepth : Nat := 127

def document (cs : List Char) : Except Stop Value := do
  let (v, rest) ← value (cs.length + 1) greatestDepth cs
  match skipBlanks rest with
  | [] => pure v
  | c :: rest => .error ⟨.trailingCharacters, byteCount (c :: rest) - 1⟩

end Reader

def Stop.toError (text : String) (stop : Stop) : SyntaxError :=
  let bytes := Text.bytesOf text
  let (line, column) := placeAfter (bytes.length - stop.unread) bytes 1 0
  ⟨stop.reason, line, column⟩

def parse (text : String) : Except SyntaxError Value :=
  (Reader.document text.toList).mapError (·.toError text)

end LiteserverFleet.Json
