/-!
# Why a text is no JSON

An error names its reason and the place at which reading stopped.  Lines count from one; the column is the
number of bytes of the line up to and including the offending one.
-/

set_option autoImplicit false

namespace LiteserverFleet.Json

inductive Reason where
  | unfinishedList
  | unfinishedObject
  | unfinishedString
  | unfinishedValue
  | expectedColon
  | expectedListSeparator
  | expectedObjectSeparator
  | expectedLiteral
  | expectedValue
  | invalidEscape
  | invalidNumber
  | numberOutOfRange
  | controlCharacter
  | keyNotString
  | unpairedSurrogate
  | unfinishedSurrogatePair
  | trailingComma
  | trailingCharacters
  | nestedTooDeeply
deriving DecidableEq

def Reason.message : Reason → String
  | .unfinishedList => "EOF while parsing a list"
  | .unfinishedObject => "EOF while parsing an object"
  | .unfinishedString => "EOF while parsing a string"
  | .unfinishedValue => "EOF while parsing a value"
  | .expectedColon => "expected `:`"
  | .expectedListSeparator => "expected `,` or `]`"
  | .expectedObjectSeparator => "expected `,` or `\x7d`"
  | .expectedLiteral => "expected ident"
  | .expectedValue => "expected value"
  | .invalidEscape => "invalid escape"
  | .invalidNumber => "invalid number"
  | .numberOutOfRange => "number out of range"
  | .controlCharacter => "control character (\\u0000-\\u001F) found while parsing a string"
  | .keyNotString => "key must be a string"
  | .unpairedSurrogate => "lone leading surrogate in hex escape"
  | .unfinishedSurrogatePair => "unexpected end of hex escape"
  | .trailingComma => "trailing comma"
  | .trailingCharacters => "trailing characters"
  | .nestedTooDeeply => "recursion limit exceeded"

/-- A reason and the place of the offending byte. -/
structure SyntaxError where
  reason : Reason
  line : Nat
  column : Nat
deriving DecidableEq

def SyntaxError.message (e : SyntaxError) : String :=
  e.reason.message ++ " at line " ++ toString e.line ++ " column " ++ toString e.column

/-- The line and column behind the first `count` bytes of a text: each line feed starts a new line. -/
def placeAfter : Nat → List UInt8 → Nat → Nat → Nat × Nat
  | 0, _, line, column => (line, column)
  | _ + 1, [], line, column => (line, column)
  | count + 1, byte :: rest, line, column =>
      if byte = 10 then placeAfter count rest (line + 1) 0
      else placeAfter count rest line (column + 1)

end LiteserverFleet.Json
