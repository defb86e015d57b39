/-!
# UTF-8 bytes and characters

The lenient reading of bytes as text puts the replacement character U+FFFD in place of every maximal piece that
cannot be part of a text.
-/

set_option autoImplicit false

namespace LiteserverFleet.Text

def byteCount (cs : List Char) : Nat :=
  cs.foldr (fun c count => c.utf8Size + count) 0

def bytesOf (s : String) : List UInt8 :=
  s.toUTF8.toList

/-- What may follow a leading byte: the bounds of the second byte and how many plain continuation
bytes come after it.  The bounds exclude overlong forms, surrogates and numbers above U+10FFFF. -/
structure Follow where
  low : Nat
  high : Nat
  more : Nat

def followOf? (lead : Nat) : Option Follow :=
  if 0xC2 ≤ lead && lead ≤ 0xDF then some ⟨0x80, 0xBF, 0⟩
  else if lead = 0xE0 then some ⟨0xA0, 0xBF, 1⟩
  else if lead = 0xED then some ⟨0x80, 0x9F, 1⟩
  else if 0xE1 ≤ lead && lead ≤ 0xEF then some ⟨0x80, 0xBF, 1⟩
  else if lead = 0xF0 then some ⟨0x90, 0xBF, 2⟩
  else if 0xF1 ≤ lead && lead ≤ 0xF3 then some ⟨0x80, 0xBF, 2⟩
  else if lead = 0xF4 then some ⟨0x80, 0x8F, 2⟩
  else none

def continueChar : Nat → Nat → List UInt8 → Char × List UInt8
  | 0, code, rest => (Char.ofNat code, rest)
  | _ + 1, _, [] => ('\uFFFD', [])
  | count + 1, code, byte :: rest =>
      if 0x80 ≤ byte.toNat && byte.toNat ≤ 0xBF then
        continueChar count (code * 64 + byte.toNat % 64) rest
      else ('\uFFFD', byte :: rest)

/-- Reads one character behind its leading byte; what is left of a broken one is one U+FFFD. -/
def lenientChar (lead : UInt8) (rest : List UInt8) : Char × List UInt8 :=
  if lead.toNat < 0x80 then (Char.ofNat lead.toNat, rest)
  else match followOf? lead.toNat with
    | none => ('\uFFFD', rest)
    | some follow => match rest with
      | [] => ('\uFFFD', [])
      | second :: rest =>
          if follow.low ≤ second.toNat && second.toNat ≤ follow.high then
            let leadBits := lead.toNat % (if follow.more = 0 then 32 else if follow.more = 1 then 16 else 8)
            continueChar follow.more (leadBits * 64 + second.toNat % 64) rest
          else ('\uFFFD', second :: rest)

def lenientChars : Nat → List UInt8 → List Char
  | 0, _ => []
  | _ + 1, [] => []
  | fuel + 1, lead :: rest =>
      let (c, rest) := lenientChar lead rest
      c :: lenientChars fuel rest

/-- Every character takes at least one byte, so their number is fuel enough. -/
def lenientText (bytes : List UInt8) : String :=
  String.ofList (lenientChars bytes.length bytes)

example : lenientText [0x61, 0xC3, 0xA9, 0xE2, 0x82, 0x41, 0xFF, 0xF0, 0x9F, 0x98, 0x80] = "aé\uFFFDA\uFFFD😀" := by
  decide +kernel

example : lenientText [0xED, 0xA0, 0x80] = "\uFFFD\uFFFD\uFFFD" := by decide +kernel

end LiteserverFleet.Text
