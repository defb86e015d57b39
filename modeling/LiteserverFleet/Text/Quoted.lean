import LiteserverFleet.Text.Hidden

/-!
# Quoted text

Messages that repeat a text they did not expect show it between double quotes, so that its ends
and its invisible characters can be seen.  A quote and a backslash are escaped, the usual blanks
and the zero character have short escapes, and any other character without a glyph of its own is
written as its code point in lower-case hexadecimal digits between braces.
-/

set_option autoImplicit false

namespace LiteserverFleet.Text

def hexDigits (n : Nat) : List Char :=
  Nat.toDigits 16 n

def quotedChar (c : Char) : List Char :=
  if c = '\x00' then ['\\', '0']
  else if c = '\t' then ['\\', 't']
  else if c = '\r' then ['\\', 'r']
  else if c = '\n' then ['\\', 'n']
  else if c = '"' then ['\\', '"']
  else if c = '\\' then ['\\', '\\']
  else if c.toNat < 0x20 || isHidden c then
    ['\\', 'u', '{'] ++ hexDigits c.toNat ++ ['}']
  else [c]

/-- The text between double quotes, with escapes where a character would not show. -/
def quoted (s : String) : String :=
  String.ofList ('"' :: s.toList.flatMap quotedChar ++ ['"'])

example : quoted "a\"b\\c" = "\"a\\\"b\\\\c\"" := by decide +kernel

example : quoted "é\x01\u0301" = "\"é\\u\x7b1\x7d\\u\x7b301\x7d\"" := by decide +kernel

end LiteserverFleet.Text
