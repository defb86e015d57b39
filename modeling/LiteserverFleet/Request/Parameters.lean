import LiteserverFleet.Error
import LiteserverFleet.Json.Printer
import LiteserverFleet.Request.Selection

/-!
# Request parameters

The form in which callers ask for workers: a mode, and optional fields of which the mode admits some
combinations only.  Validation turns the admitted ones into selections.
-/

set_option autoImplicit false

namespace LiteserverFleet

open Json (Value Decoder)

inductive RequestMode where
  | broadcast
  | single
  | multiple
deriving DecidableEq

/-- What a caller asks for.  An absent list of indices is not an empty one. -/
structure RequestParameters where
  mode : RequestMode
  archival : Bool := false
  indexes : Option (List Nat) := none
  count : Option Nat := none
deriving DecidableEq

namespace RequestMode

def names : List (String × RequestMode) :=
  [("broadcast", broadcast), ("single", single), ("multiple", multiple)]

def name : RequestMode → String
  | broadcast => "broadcast"
  | single => "single"
  | multiple => "multiple"

end RequestMode

namespace RequestParameters

def anyWorker : RequestParameters := { mode := .single }

def everyWorker : RequestParameters := { mode := .broadcast }

def workerAt (index : Nat) : RequestParameters := { mode := .single, indexes := some [index] }

def workersAt (indexes : List Nat) : RequestParameters :=
  { mode := .multiple, indexes := some indexes }

def someWorkers (count : Nat) : RequestParameters := { mode := .multiple, count := some count }

def validate (p : RequestParameters) : Except FleetError Selection :=
  let selected (policy : Policy) : Except FleetError Selection :=
    .ok { policy, archival := p.archival }
  let refused (fault : RequestFault) : Except FleetError Selection :=
    .error (.invalidRequest fault)
  match p.mode with
  | .broadcast =>
      if p.indexes.isSome || p.count.isSome then refused .broadcastWithRoute
      else selected .broadcast
  | .single =>
      if p.count.isSome then refused .singleWithCount
      else match p.indexes with
        | none => selected (.single none)
        | some [index] => selected (.single (some index))
        | some indexes => refused (.singleIndexCount indexes.length)
  | .multiple =>
      match p.indexes, p.count with
      | some indexes, none => selected (.indices (.ofList indexes))
      | none, some count => selected (.count count)
      | some _, some _ => refused .multipleWithBoth
      | none, none => refused .multipleWithNeither

/-- The JSON form: absent options are left out. -/
def toValue (p : RequestParameters) : Value :=
  .object ([("mode", .text p.mode.name), ("archival", .boolean p.archival)]
    ++ (p.indexes.map fun ns => ("lite_server_indexes", Value.array (ns.map .ofNat))).toList
    ++ (p.count.map fun n => ("clients_number", Value.ofNat n)).toList)

structure Partial where
  mode : Option RequestMode := none
  archival : Bool := false
  indexes : Option (List Nat) := none
  count : Option Nat := none

/-- How parameters are decoded; only the mode must be given. -/
def shape : Decoder.Shape Partial where
  name := "RequestParameters"
  fields := [
    ("mode", fun v p => (Decoder.choice RequestMode.names v).map fun m => { p with mode := some m }),
    ("archival", fun v p => (Decoder.boolean v).map fun b => { p with archival := b }),
    ("lite_server_indexes", fun v p =>
      (Decoder.optional (Decoder.list Decoder.index) v).map fun ns => { p with indexes := ns }),
    ("clients_number", fun v p =>
      (Decoder.optional Decoder.index v).map fun n => { p with count := n })]
  required := 1

def ofValue : Decoder RequestParameters := fun found => do
  let p ← shape.fill {} found
  let mode ← Decoder.require "mode" p.mode
  pure { mode, archival := p.archival, indexes := p.indexes, count := p.count }

end RequestParameters

end LiteserverFleet
