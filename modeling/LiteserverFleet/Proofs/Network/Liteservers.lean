import LiteserverFleet.CommandLine.Program
import LiteserverFleet.Proofs.CommandLine.Split
import LiteserverFleet.Proofs.Json.Decoding
import LiteserverFleet.Proofs.Network.Partition

/-!
# Typed entries

A liteserver decodes from its text to itself: what is written in the order of declaration is read in ascending order of
keys, which decoding does not mind.  The entries of a config decode all or not at all, and then the first malformed
one decides (`FirstMalformed`); a listing of such a config prints no line (`liteservers_decoded`).
-/

set_option autoImplicit false

namespace LiteserverFleet

open Json (Value Members Decoder)

namespace LiteserverKey

theorem ofValue_toValue (id : LiteserverKey) : ofValue id.toValue = .ok id :=
  rfl

theorem toValue_within {depth : Nat} (id : LiteserverKey) : id.toValue.Within (depth + 1) := by
  have keys : ["@type", "key"].Pairwise (· < ·) := by decide
  refine .object (Members.ascending_of_keys keys) ?_
  simp only [List.forall_mem_cons]
  exact ⟨.text _, .text _, nofun⟩

theorem toValue_integral (id : LiteserverKey) : id.toValue.Integral := by
  refine .object ?_
  simp only [List.forall_mem_cons]
  exact ⟨.text _, .text _, nofun⟩

end LiteserverKey

namespace Liteserver

variable (server : Liteserver)

/-- The members in ascending order of keys. -/
def orderedMembers : Members :=
  [("id", server.id.toValue), ("ip", .ofInt server.ip.toInt), ("port", .ofNat server.port.toNat)]

/-- The members in the order in which they are written. -/
def writtenMembers : Members :=
  [("ip", .ofInt server.ip.toInt), ("port", .ofNat server.port.toNat)] ++ [("id", server.id.toValue)]

theorem toValue_eq : server.toValue = .object server.writtenMembers :=
  rfl

theorem writtenMembers_perm : server.writtenMembers.Perm server.orderedMembers :=
  List.perm_append_singleton _ _

theorem orderedMembers_within {depth : Nat} : (Value.object server.orderedMembers).Within (depth + 2) := by
  have keys : ["id", "ip", "port"].Pairwise (· < ·) := by decide
  refine .object (Members.ascending_of_keys keys) ?_
  simp only [orderedMembers, List.forall_mem_cons]
  exact ⟨server.id.toValue_within, .number _, .number _, nofun⟩

theorem orderedMembers_integral : (Value.object server.orderedMembers).Integral := by
  have least : -0x8000000000000000 ≤ server.ip.toInt := server.ip.minValue_le_toInt
  have greatest : server.ip.toInt < 0x8000000000000000 := server.ip.toInt_lt
  have port := server.port.toNat_lt
  refine .object ?_
  simp only [orderedMembers, List.forall_mem_cons]
  exact ⟨server.id.toValue_integral, Json.Number.integral_ofInt ⟨least, by omega⟩,
    Json.Number.integral_ofInt ⟨by omega, by omega⟩, nofun⟩

theorem ofValue_orderedMembers : ofValue (.object server.orderedMembers) = .ok server := by
  have filled := calc shape.fill {} (.object server.orderedMembers)
      _ = Decoder.fillByName shape.fields { id := some server.id }
          [("ip", .ofInt server.ip.toInt), ("port", .ofNat server.port.toNat)] := by
        refine Decoder.fillByName_cons rfl ?_
        rw [LiteserverKey.ofValue_toValue]
        rfl
      _ = Decoder.fillByName shape.fields { id := some server.id, ip := some server.ip }
          [("port", .ofNat server.port.toNat)] := by
        refine Decoder.fillByName_cons rfl ?_
        rw [Decoder.int64_ofInt]
        rfl
      _ = .ok { id := some server.id, ip := some server.ip, port := some server.port } := by
        refine Decoder.fillByName_cons rfl ?_
        rw [Decoder.uint16_ofNat]
        rfl
  rw [ofValue, filled]
  rfl

theorem decodes_compactText : Decoder.Decodes ofValue server.toValue.compactText server := by
  refine ⟨.object server.orderedMembers, ?_, server.ofValue_orderedMembers⟩
  rw [toValue_eq]
  exact Json.parse_compactText_reordered server.writtenMembers_perm server.orderedMembers_within
    server.orderedMembers_integral

end Liteserver

/-- The error of the first entry that does not decode. -/
inductive FirstMalformed (entries : List Value) : FleetError → Prop where
  | intro {before behind : List Value} {entry : Value} {mismatch : Json.Mismatch}
      (split : entries = before ++ entry :: behind)
      (decoded : ∀ each ∈ before, ∃ server, Liteserver.ofValue each = .ok server)
      (malformed : Liteserver.ofValue entry = .error mismatch) :
      FirstMalformed entries (.invalidConfig (.malformedEntry mismatch))

namespace NetworkConfig

variable {config : NetworkConfig}

theorem liteservers_eq_ok_iff {servers : List Liteserver} :
    config.liteservers = .ok servers ↔
      List.Forall₂ (fun entry server => Liteserver.ofValue entry = .ok server) config.entries servers := by
  unfold liteservers
  simp only [Json.mapM_eq_ok_iff, Json.mapError_eq_ok_iff]

theorem exists_liteservers_iff :
    (∃ servers, config.liteservers = .ok servers) ↔
      ∀ entry ∈ config.entries, ∃ server, Liteserver.ofValue entry = .ok server := by
  unfold liteservers
  simp only [Json.exists_mapM_eq_ok_iff, Json.mapError_eq_ok_iff]

theorem liteservers_eq_error_iff {e : FleetError} :
    config.liteservers = .error e ↔ FirstMalformed config.entries e := by
  unfold liteservers
  simp only [Json.mapM_eq_error_iff, Json.mapError_eq_ok_iff, Json.mapError_eq_error_iff]
  constructor
  · rintro ⟨before, entry, behind, split, decoded, mismatch, malformed, rfl⟩
    exact .intro split decoded malformed
  · rintro ⟨split, decoded, malformed⟩
    exact ⟨_, _, _, split, decoded, _, malformed, rfl⟩

/-! ## Configs of given liteservers -/

/-- A config that describes nothing but liteservers, as it is read from its own text. -/
def ofServers (servers : List Liteserver) : NetworkConfig where
  directory := []
  typeTag := ""
  validator := []
  entries := servers.map fun server => .object server.orderedMembers

theorem liteservers_ofServers (servers : List Liteserver) : (ofServers servers).liteservers = .ok servers := by
  rw [liteservers_eq_ok_iff, ofServers, List.forall₂_map_left_iff, List.forall₂_same]
  intro server _
  exact server.ofValue_orderedMembers

theorem parse_ofServers (servers : List Liteserver) :
    parse (ofServers servers).toValue.compactText = .ok (ofServers servers) := by
  have fits : (ofServers servers).Fits 125 := by
    refine ⟨.object .nil nofun, .object .nil nofun, ?_⟩
    rw [ofServers, List.forall_mem_map]
    exact fun server _ => server.orderedMembers_within
  have integral : (ofServers servers).Integral := by
    refine ⟨.object nofun, .object nofun, ?_⟩
    rw [ofServers, List.forall_mem_map]
    exact fun server _ => server.orderedMembers_integral
  exact parse_compactText fits integral

/-! ## Listings -/

theorem listConfig_of_liteservers {servers : List Liteserver} (decoded : config.liteservers = .ok servers) :
    listConfig config = .ok (servers.mapIdx Liteserver.listingLine) := by
  rw [listConfig, listing, decoded]
  rfl

theorem runList_of_error {path : String} {before after : FileTree} {e : FleetError}
    (loaded : loadConfig (m := StateM FileTree) path before = (.ok config, after))
    (failed : config.liteservers = .error e) :
    CommandLine.runList (m := StateM FileTree) path before = (CommandLine.failed (.fleet e) [], after) := by
  have unlisted : listConfig config = .error (.fleet e) := by
    rw [listConfig, listing, failed]
    rfl
  simp only [CommandLine.runList, bind, StateT.bind, loaded, unlisted]
  rfl

/-- A liteserver decodes from its text to itself and to nothing else.  The entries of a config decode if each of them
does, and then there is one liteserver for each entry, in order; otherwise the error is that of the first entry that
does not decode.  A program that lists such a config prints no line and reports this error. -/
theorem liteservers_decoded :
    (∀ server other : Liteserver,
      Decoder.Decodes Liteserver.ofValue server.toValue.compactText other ↔ other = server) ∧
    (∀ config : NetworkConfig, (∃ servers, config.liteservers = .ok servers) ↔
      ∀ entry ∈ config.entries, ∃ server, Liteserver.ofValue entry = .ok server) ∧
    (∀ (config : NetworkConfig) (servers : List Liteserver), config.liteservers = .ok servers ↔
      List.Forall₂ (fun entry server => Liteserver.ofValue entry = .ok server) config.entries servers) ∧
    (∀ (config : NetworkConfig) (e : FleetError),
      config.liteservers = .error e ↔ FirstMalformed config.entries e) ∧
    ∀ (config : NetworkConfig) (path : String) (before after : FileTree),
      loadConfig (m := StateM FileTree) path before = (.ok config, after) →
        (∃ entry ∈ config.entries, ∀ server, Liteserver.ofValue entry ≠ .ok server) →
          ∃ e, FirstMalformed config.entries e ∧
            CommandLine.runList (m := StateM FileTree) path before =
              ({ exitCode := 1, output := "", errors := (CommandFailure.fleet e).report }, after) := by
  refine ⟨?text, fun _ => exists_liteservers_iff, fun _ _ => liteservers_eq_ok_iff,
    fun _ _ => liteservers_eq_error_iff, ?listing⟩
  case text =>
    intro server other
    constructor
    · intro decodes
      exact decodes.unique server.decodes_compactText
    · rintro rfl
      exact other.decodes_compactText
  case listing =>
    rintro config path before after loaded ⟨entry, member, malformed⟩
    cases decoded : config.liteservers with
    | ok servers =>
        obtain ⟨server, isServer⟩ := exists_liteservers_iff.mp ⟨servers, decoded⟩ entry member
        exact absurd isServer (malformed server)
    | error e => exact ⟨e, liteservers_eq_error_iff.mp decoded, runList_of_error loaded decoded⟩

/-- A liteserver whose address is stored as a negative number, in front of an entry with a port that is too great: the
listing reports the port and does not print the line of the first. -/
theorem liteservers_decoded_wide_port :
    let server : Liteserver := { ip := -1, port := 7, id := { keyType := "p", key := "A\"=" } }
    let wide : Value := .object [("port", .ofNat 70000)]
    let config : NetworkConfig :=
      { directory := [], typeTag := "t", validator := [], entries := [.object server.orderedMembers, wide] }
    let mismatch : Json.Mismatch := .wrongValue (.ofNat 70000) "u16"
    let tree : FileTree := { nodes := [(["net"], .file config.toValue.compactText.toUTF8)] }
    let refusal : FleetError := .invalidConfig (.malformedEntry mismatch)
    Decoder.Decodes Liteserver.ofValue server.toValue.compactText server ∧
      config.liteservers = .error refusal ∧
        CommandLine.runList (m := StateM FileTree) "net" tree =
          ({ exitCode := 1, output := "", errors := (CommandFailure.fleet refusal).report }, tree) := by
  intro server wide config mismatch tree refusal
  obtain ⟨text, -, -, failure, listing⟩ := liteservers_decoded
  have fits : config.Fits 125 := by
    refine ⟨.object .nil nofun, .object .nil nofun, ?_⟩
    simp only [config, List.forall_mem_cons]
    refine ⟨server.orderedMembers_within, .object (List.pairwise_singleton _ _) ?_, nofun⟩
    exact List.forall_mem_singleton.mpr (.number _)
  have integral : config.Integral := by
    refine ⟨.object nofun, .object nofun, ?_⟩
    simp only [config, List.forall_mem_cons]
    refine ⟨server.orderedMembers_integral, .object ?_, nofun⟩
    exact List.forall_mem_singleton.mpr (Json.Number.integral_ofInt (by decide))
  have tooGreat : Liteserver.ofValue wide = .error mismatch := rfl
  have decoded : ∃ decoded, Liteserver.ofValue (.object server.orderedMembers) = .ok decoded :=
    ⟨server, server.ofValue_orderedMembers⟩
  have first : FirstMalformed config.entries refusal :=
    .intro rfl (List.forall_mem_singleton.mpr decoded) tooGreat
  have refused : config.liteservers = .error refusal := (failure config refusal).mpr first
  have stored (content : ByteArray) :
      ({ nodes := [(["net"], .file content)] } : FileTree).readFile "net" = .ok content :=
    FileTree.readFile_eq_ok_iff.mpr ⟨["net"], rfl, rfl⟩
  have read : tree.readText "net" = .ok config.toValue.compactText :=
    FileTree.readText_eq_ok_iff.mpr (stored _)
  have loaded : loadConfig (m := StateM FileTree) "net" tree = (.ok config, tree) :=
    loadConfig_of_readText read (parse_compactText fits integral)
  have malformed : ∀ server, Liteserver.ofValue wide ≠ .ok server := by
    intro server isServer
    cases tooGreat.symm.trans isServer
  have isEntry : wide ∈ config.entries := List.mem_cons_of_mem _ List.mem_cons_self
  obtain ⟨e, isFirst, ran⟩ := listing config "net" tree tree loaded ⟨wide, isEntry, malformed⟩
  cases refused.symm.trans ((failure config e).mpr isFirst)
  exact ⟨(text server server).mpr rfl, refused, ran⟩

end NetworkConfig

end LiteserverFleet
