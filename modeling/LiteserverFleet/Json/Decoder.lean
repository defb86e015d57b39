import LiteserverFleet.Json.Value
import LiteserverFleet.Text.Quoted

/-!
# Reading typed data out of JSON values

A decoder of a type accepts the values that stand for its elements and says of any other value what it found
and what it expected.  A record may be an object or the list of its fields in declaration order; in an
object the fields are checked in the order of its members, unknown members are passed over, and absent fields
are reported afterwards, in declaration order.
-/

set_option autoImplicit false

namespace LiteserverFleet.Json

inductive Mismatch where
  | wrongType (found : Value) (expected : String)
  | wrongValue (found : Value) (expected : String)
  | wrongLength (found : Nat) (expected : String)
  | missingField (name : String)
  | unknownVariant (name : String) (known : List String)

def Value.description : Value → String
  | .null => "null"
  | .boolean b => "boolean `" ++ (if b then "true" else "false") ++ "`"
  | .number (.integer i _) => "integer `" ++ String.ofList (Number.integerDigits i) ++ "`"
  | .number (.binary x) => "floating point `" ++ String.ofList (Number.binaryDigits x) ++ "`"
  | .text s => "string " ++ Text.quoted s
  | .array _ => "sequence"
  | .object _ => "map"

def listedNames (names : List String) : String :=
  ", ".intercalate (names.map fun name => "`" ++ name ++ "`")

def Mismatch.message : Mismatch → String
  | .wrongType found expected => "invalid type: " ++ found.description ++ ", expected " ++ expected
  | .wrongValue found expected => "invalid value: " ++ found.description ++ ", expected " ++ expected
  | .wrongLength found expected => "invalid length " ++ toString found ++ ", expected " ++ expected
  | .missingField name => "missing field `" ++ name ++ "`"
  | .unknownVariant name known =>
      "unknown variant `" ++ name ++ "`, expected one of " ++ listedNames known

abbrev Decoder (α : Type) := Value → Except Mismatch α

namespace Decoder

def integer (low high : Int) (expected : String) : Decoder Int
  | .number (.integer i inRange) =>
      if low ≤ i ∧ i ≤ high then .ok i
      else .error (.wrongValue (.number (.integer i inRange)) expected)
  | found => .error (.wrongType found expected)

def int64 : Decoder Int64 := fun found =>
  (integer (-0x8000000000000000) 0x7FFFFFFFFFFFFFFF "i64" found).map Int64.ofInt

def uint16 : Decoder UInt16 := fun found =>
  (integer 0 0xFFFF "u16" found).map fun i => UInt16.ofNat i.toNat

def index : Decoder Nat := fun found =>
  (integer 0 0xFFFFFFFFFFFFFFFF "usize" found).map Int.toNat

def boolean : Decoder Bool
  | .boolean b => .ok b
  | found => .error (.wrongType found "a boolean")

def text : Decoder String
  | .text s => .ok s
  | found => .error (.wrongType found "a string")

/-- Lists of elements; the first element that does not decode decides. -/
def list {α : Type} (element : Decoder α) : Decoder (List α)
  | .array items => items.mapM element
  | found => .error (.wrongType found "a sequence")

/-- Elements that may be absent: `null` stands for absence. -/
def optional {α : Type} (element : Decoder α) : Decoder (Option α)
  | .null => .ok none
  | found => (element found).map some

/-- Checks that the value of a variant without data is absent or `null`. -/
def emptyPayload : Decoder Unit
  | .null => .ok ()
  | found => .error (.wrongType found "unit")

/-- The variants of a choice without data, written as a name, or as an object with the name as its only
key and `null` as its value. -/
def choice {α : Type} (variants : List (String × α)) : Decoder α :=
  let named (name : String) : Except Mismatch α :=
    match variants.lookup name with
    | some a => .ok a
    | none => .error (.unknownVariant name (variants.map (·.1)))
  fun found => match found with
    | .text name => named name
    | .object [(name, payload)] => do
        let a ← named name
        emptyPayload payload
        pure a
    | .object _ => .error (.wrongValue found "map with a single key")
    | _ => .error (.wrongType found "string or map")

abbrev FieldDecoder (ρ : Type) := Value → ρ → Except Mismatch ρ

/-- Fills a record from the members of an object, in their order; unknown members are passed over. -/
def fillByName {ρ : Type} (fields : List (String × FieldDecoder ρ)) (start : ρ) (members : Members) :
    Except Mismatch ρ :=
  members.foldlM
    (fun record member => match fields.lookup member.1 with
      | some field => field member.2 record
      | none => .ok record)
    start

/-- Fills a record from the first elements of a list, one for each field as far as they reach. -/
def fillByPosition {ρ : Type} : List (String × FieldDecoder ρ) → ρ → List Value → Except Mismatch ρ
  | [], record, _ => .ok record
  | _ :: _, record, [] => .ok record
  | (_, field) :: fields, record, item :: items => do
      let record ← field item record
      fillByPosition fields record items

/-- A record type: its name, its fields in declaration order and how many of them must be given. -/
structure Shape (ρ : Type) where
  name : String
  fields : List (String × FieldDecoder ρ)
  required : Nat

/-- Fills a record from an object or from the list of its fields.

A list that ends before the last required field is too short, one that is longer than the fields is too long;
what it holds is checked first. -/
def Shape.fill {ρ : Type} (shape : Shape ρ) (start : ρ) : Decoder ρ
  | .object members => fillByName shape.fields start members
  | .array items => do
      let record ← fillByPosition shape.fields start items
      if items.length < shape.required then
        .error (.wrongLength items.length
          ("struct " ++ shape.name ++ " with " ++ toString shape.fields.length ++ " elements"))
      else if shape.fields.length < items.length then
        .error (.wrongLength items.length "fewer elements in array")
      else pure record
  | found => .error (.wrongType found ("struct " ++ shape.name))

def require {α : Type} (name : String) : Option α → Except Mismatch α
  | some a => .ok a
  | none => .error (.missingField name)

end Decoder

end LiteserverFleet.Json
