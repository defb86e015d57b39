import LiteserverFleet.Error
import LiteserverFleet.Json.Reader
import LiteserverFleet.Json.Printer

/-!
# Network configs

A network config describes a whole network: the directory nodes, the validator and the liteservers.
A connection must see its own liteserver only, so a config is partitioned into one document for each entry,
which keeps the shared fields as they are.
-/

set_option autoImplicit false

namespace LiteserverFleet

open Json (Value Members)

/-- The fields of a network config that every partitioned document needs. -/
structure NetworkConfig where
  directory : Members
  typeTag : String
  validator : Members
  entries : List Value

namespace NetworkConfig

def directoryField : String := "dht"
def typeField : String := "@type"
def validatorField : String := "validator"
def entriesField : String := "liteservers"

def fieldOf (members : Members) (name : String) : Except FleetError Value :=
  match members.find? name with
  | some v => .ok v
  | none => .error (.invalidConfig (.missingField name))

def objectField (members : Members) (name : String) : Except FleetError Members := do
  match ← fieldOf members name with
  | .object inner => pure inner
  | _ => .error (.invalidConfig (.wrongFieldType name "object"))

def textField (members : Members) (name : String) : Except FleetError String := do
  match ← fieldOf members name with
  | .text s => pure s
  | _ => .error (.invalidConfig (.wrongFieldType name "string"))

def listField (members : Members) (name : String) : Except FleetError (List Value) := do
  match ← fieldOf members name with
  | .array items => pure items
  | _ => .error (.invalidConfig (.wrongFieldType name "array"))

/-- The config that a JSON value describes.  Of several faults, that of the first field counts. -/
def ofValue : Value → Except FleetError NetworkConfig
  | .object members => do
      let directory ← objectField members directoryField
      let typeTag ← textField members typeField
      let validator ← objectField members validatorField
      let entries ← listField members entriesField
      pure { directory, typeTag, validator, entries }
  | _ => .error (.invalidConfig .notAnObject)

def parse (text : String) : Except FleetError NetworkConfig := do
  let value ← (Json.parse text).mapError .configParse
  ofValue value

def toValue (config : NetworkConfig) : Value :=
  .object [
    (typeField, .text config.typeTag),
    (directoryField, .object config.directory),
    (entriesField, .array config.entries),
    (validatorField, .object config.validator)]

def withEntry (config : NetworkConfig) (entry : Value) : NetworkConfig :=
  { config with entries := [entry] }

/-- One document for each entry, in order.  A config without entries routes nothing and is refused. -/
def partition (config : NetworkConfig) : Except FleetError (List Value) :=
  if config.entries.isEmpty then .error .noLiteservers
  else .ok (config.entries.map fun entry => (config.withEntry entry).toValue)

def splitText (text : String) : Except FleetError (List String) := do
  let config ← parse text
  let documents ← config.partition
  pure (documents.map Value.compactText)

end NetworkConfig

end LiteserverFleet
