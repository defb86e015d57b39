import LiteserverFleet.Json.Number

/-!
# JSON values

An object is the list of its members in the order in which they are written.  Objects that are read
from a text have their members in ascending order of keys, each key once; `Members.insert` keeps that order.
The order of characters is the order of their UTF-8 bytes, so keys are in byte order.
-/

set_option autoImplicit false

namespace LiteserverFleet.Json

inductive Value where
  | null
  | boolean (b : Bool)
  | number (n : Number)
  | text (s : String)
  | array (items : List Value)
  | object (members : List (String × Value))

abbrev Members := List (String × Value)

namespace Members

/-- Puts a member at its place in ascending order; an earlier one with the same key is replaced. -/
def insert (key : String) (value : Value) : Members → Members
  | [] => [(key, value)]
  | (k, v) :: rest =>
      if key < k then (key, value) :: (k, v) :: rest
      else if key = k then (key, value) :: rest
      else (k, v) :: insert key value rest

/-- The members in ascending order of keys; the last of several with one key counts. -/
def ofList (members : List (String × Value)) : Members :=
  members.foldl (fun sorted member => insert member.1 member.2 sorted) []

def find? (key : String) (members : Members) : Option Value :=
  List.lookup key members

end Members

namespace Value

def ofNat (n : Nat) : Value :=
  .number (.ofInt n)

def ofInt (i : Int) : Value :=
  .number (.ofInt i)

/-- A value that may be absent is `null` when it is. -/
def ofOption {α : Type} (encode : α → Value) : Option α → Value
  | none => .null
  | some a => encode a

end Value

end LiteserverFleet.Json
