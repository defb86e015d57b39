import LiteserverFleet.Network.Config

/-!
# Liteservers

The typed view of an entry of a network config.  A config stores an IPv4 address as a signed number;
its octets are those of the same number modulo 2 ^ 32, most significant first.
-/

set_option autoImplicit false

namespace LiteserverFleet

open Json (Value Decoder Mismatch)

structure LiteserverKey where
  keyType : String
  key : String
deriving DecidableEq

structure Liteserver where
  ip : Int64
  port : UInt16
  id : LiteserverKey
deriving DecidableEq

namespace LiteserverKey

structure Partial where
  keyType : Option String := none
  key : Option String := none

def shape : Decoder.Shape Partial where
  name := "LiteServerId"
  fields := [
    ("@type", fun v p => (Decoder.text v).map fun s => { p with keyType := some s }),
    ("key", fun v p => (Decoder.text v).map fun s => { p with key := some s })]
  required := 2

def ofValue : Decoder LiteserverKey := fun found => do
  let p ← shape.fill {} found
  let keyType ← Decoder.require "@type" p.keyType
  let key ← Decoder.require "key" p.key
  pure { keyType, key }

def toValue (id : LiteserverKey) : Value :=
  .object [("@type", .text id.keyType), ("key", .text id.key)]

end LiteserverKey

namespace Liteserver

structure Partial where
  ip : Option Int64 := none
  port : Option UInt16 := none
  id : Option LiteserverKey := none

def shape : Decoder.Shape Partial where
  name := "LiteServerDescriptor"
  fields := [
    ("ip", fun v p => (Decoder.int64 v).map fun i => { p with ip := some i }),
    ("port", fun v p => (Decoder.uint16 v).map fun n => { p with port := some n }),
    ("id", fun v p => (LiteserverKey.ofValue v).map fun k => { p with id := some k })]
  required := 3

def ofValue : Decoder Liteserver := fun found => do
  let p ← shape.fill {} found
  let ip ← Decoder.require "ip" p.ip
  let port ← Decoder.require "port" p.port
  let id ← Decoder.require "id" p.id
  pure { ip, port, id }

def toValue (server : Liteserver) : Value :=
  .object [
    ("ip", .ofInt server.ip.toInt),
    ("port", .ofNat server.port.toNat),
    ("id", server.id.toValue)]

/-- The IPv4 address as a number below 2 ^ 32. -/
def address (server : Liteserver) : Nat :=
  (server.ip.toInt % 0x100000000).toNat

def octets (server : Liteserver) : List Nat :=
  [server.address / 0x1000000 % 256, server.address / 0x10000 % 256, server.address / 0x100 % 256,
    server.address % 256]

def addressText (server : Liteserver) : String :=
  ".".intercalate (server.octets.map fun n => toString n)

def endpointText (server : Liteserver) : String :=
  server.addressText ++ ":" ++ toString server.port.toNat

end Liteserver

/-- The typed entries of a config, in order; the first malformed entry decides. -/
def NetworkConfig.liteservers (config : NetworkConfig) : Except FleetError (List Liteserver) :=
  config.entries.mapM fun entry =>
    (Liteserver.ofValue entry).mapError fun mismatch => .invalidConfig (.malformedEntry mismatch)

def Liteserver.listingLine (index : Nat) (server : Liteserver) : String :=
  toString index ++ " " ++ server.endpointText ++ " " ++ server.id.key

def NetworkConfig.listing (config : NetworkConfig) : Except FleetError (List String) := do
  let servers ← config.liteservers
  pure (servers.mapIdx Liteserver.listingLine)

end LiteserverFleet
