import LiteserverFleet.Json.Value

/-!
# Writing JSON

The compact form has no blanks.  The pretty form puts every element and member on a line of its own,
two blanks deeper than its container, and a blank behind each colon; an empty container stays closed.
Members are written in the order in which the object holds them.
-/

set_option autoImplicit false

namespace LiteserverFleet.Json

def escapedByte (n : Nat) : List Char :=
  ['\\', 'u', '0', '0', Nat.digitChar (n / 16), Nat.digitChar (n % 16)]

def escapedChar (c : Char) : List Char :=
  if c = '"' then ['\\', '"']
  else if c = '\\' then ['\\', '\\']
  else if c = '\x08' then ['\\', 'b']
  else if c = '\x0C' then ['\\', 'f']
  else if c = '\n' then ['\\', 'n']
  else if c = '\r' then ['\\', 'r']
  else if c = '\t' then ['\\', 't']
  else if c.toNat < 0x20 then escapedByte c.toNat
  else [c]

def stringLiteral (s : String) : List Char :=
  '"' :: s.toList.flatMap escapedChar ++ ['"']

def booleanLiteral (b : Bool) : List Char :=
  if b then ['t', 'r', 'u', 'e'] else ['f', 'a', 'l', 's', 'e']

namespace Value

mutual

def compact : Value → List Char
  | .null => ['n', 'u', 'l', 'l']
  | .boolean b => booleanLiteral b
  | .number n => n.digits
  | .text s => stringLiteral s
  | .array [] => ['[', ']']
  | .array (first :: rest) => '[' :: first.compact ++ compactItems rest ++ [']']
  | .object [] => ['{', '}']
  | .object ((key, first) :: rest) =>
      '{' :: stringLiteral key ++ ':' :: first.compact ++ compactMembers rest ++ ['}']

/-- The elements behind the first one, each behind a comma. -/
def compactItems : List Value → List Char
  | [] => []
  | item :: rest => ',' :: item.compact ++ compactItems rest

def compactMembers : List (String × Value) → List Char
  | [] => []
  | (key, value) :: rest =>
      ',' :: stringLiteral key ++ ':' :: value.compact ++ compactMembers rest

end

def newLine (depth : Nat) : List Char :=
  '\n' :: List.replicate (2 * depth) ' '

mutual

/-- The pretty form of a value that stands at a depth. -/
def prettyAt (depth : Nat) : Value → List Char
  | .null => ['n', 'u', 'l', 'l']
  | .boolean b => booleanLiteral b
  | .number n => n.digits
  | .text s => stringLiteral s
  | .array [] => ['[', ']']
  | .array (first :: rest) =>
      '[' :: newLine (depth + 1) ++ first.prettyAt (depth + 1) ++ prettyItems (depth + 1) rest
        ++ newLine depth ++ [']']
  | .object [] => ['{', '}']
  | .object ((key, first) :: rest) =>
      '{' :: newLine (depth + 1) ++ stringLiteral key ++ ':' :: ' ' :: first.prettyAt (depth + 1)
        ++ prettyMembers (depth + 1) rest ++ newLine depth ++ ['}']

def prettyItems (depth : Nat) : List Value → List Char
  | [] => []
  | item :: rest => ',' :: newLine depth ++ item.prettyAt depth ++ prettyItems depth rest

def prettyMembers (depth : Nat) : List (String × Value) → List Char
  | [] => []
  | (key, value) :: rest =>
      ',' :: newLine depth ++ stringLiteral key ++ ':' :: ' ' :: value.prettyAt depth
        ++ prettyMembers depth rest

end

def compactText (v : Value) : String :=
  String.ofList v.compact

def prettyText (v : Value) : String :=
  String.ofList (v.prettyAt 0)

example : (Value.object [("a", .array [.null, .ofNat 7]), ("b", .object [])]).compactText =
    "\x7b\"a\":[null,7],\"b\":\x7b\x7d\x7d" := by
  decide +kernel

example : (Value.array [.object [("k", .text "\n")], .array []]).prettyText =
    "[\n  \x7b\n    \"k\": \"\\n\"\n  \x7d,\n  []\n]" := by
  decide +kernel

end Value

end LiteserverFleet.Json
