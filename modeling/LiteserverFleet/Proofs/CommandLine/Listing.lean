import LiteserverFleet.Proofs.CommandLine.SplitTree
import LiteserverFleet.Proofs.Network.Endpoints

/-!
# The lines of a listing

A key is printed as it stands in the config, so a line break in a key breaks the line of its liteserver.  A listing
has a group of lines for each liteserver (`Listed`), and one line for each liteserver exactly if no key holds a line
break (`runList_lines`).
-/

set_option autoImplicit false

namespace LiteserverFleet.CommandLine

open Text (Lines)

/-- As many lines as counted, each of which starts with its index and a blank. -/
def OneLineEach (text : String) (count : Nat) : Prop :=
  ∃ lines : List String, Lines text lines ∧ lines.length = count ∧
    ∀ (i : Nat) (line : String), lines[i]? = some line → ∃ rest, line = toString i ++ " " ++ rest

/-- The lines of a liteserver in a listing.  The first one shows the index, the endpoint and the key up to its first
line break; one more line follows for each line break in the key. -/
structure EntryLines (i : Nat) (server : Liteserver) (group : List String) : Prop where
  lines : Lines (server.listingLine i ++ "\n") group
  first : ∃ key rest, group = (toString i ++ " " ++ server.endpointText ++ " " ++ key) :: rest
  length : group.length = server.id.key.toList.count '\n' + 1

/-- A text whose lines come in groups, one for each liteserver in order. -/
structure Listed (servers : List Liteserver) (text : String) (groups : List (List String)) : Prop where
  lines : Lines text groups.flatten
  length : groups.length = servers.length
  entry : ∀ (i : Nat) (server : Liteserver) (group : List String),
    servers[i]? = some server → groups[i]? = some group → EntryLines i server group

def listingText (servers : List Liteserver) : String :=
  String.join ((servers.mapIdx Liteserver.listingLine).map (· ++ "\n"))

/-! ## One liteserver -/

section Entry

variable (i : Nat) (server : Liteserver)

theorem count_listingLine : (server.listingLine i).toList.count '\n' = server.id.key.toList.count '\n' := by
  have noIndex : (Nat.toDigits 10 i).count '\n' = 0 :=
    List.count_eq_zero_of_not_mem (Text.notMem_toDigits (by decide) i)
  have noEndpoint : server.endpointText.toList.count '\n' = 0 :=
    List.count_eq_zero_of_not_mem (server.notMem_endpointText (by decide) (by decide) (by decide))
  simp [Liteserver.listingLine, noIndex, noEndpoint]

theorem exists_entryLines : ∃ group, EntryLines i server group := by
  have unbroken : '\n' ∉ (toString i ++ " " ++ server.endpointText ++ " ").toList := by
    have noIndex := Text.notMem_toDigits (c := '\n') (by decide) i
    have noEndpoint := server.notMem_endpointText (c := '\n') (by decide) (by decide) (by decide)
    simp [noIndex, noEndpoint]
  obtain ⟨key, rest, made⟩ := Text.exists_lines server.id.key.toList unbroken
  rw [String.ofList_toList] at made
  have lines : Lines (server.listingLine i ++ "\n") _ := made
  refine ⟨_, lines, ⟨key, rest, rfl⟩, ?_⟩
  have count := lines.count
  rw [String.toList_append, List.count_append, count_listingLine] at count
  exact count.symm

end Entry

/-! ## The whole listing -/

section Listing

variable (servers : List Liteserver)

/-- The line breaks behind the lines, and those in the keys. -/
theorem count_listingText : (listingText servers).toList.count '\n' =
    servers.length + (servers.flatMap fun server => server.id.key.toList).count '\n' := by
  have counts : (servers.mapIdx Liteserver.listingLine).map (List.count '\n' ∘ String.toList) =
      servers.map (List.count '\n' ∘ fun server => server.id.key.toList) := by
    apply List.ext_getElem?
    intro i
    simp [List.getElem?_mapIdx, Function.comp_def, count_listingLine]
  rw [listingText, Text.count_joined, List.length_mapIdx, List.count_flatMap, counts, ← List.count_flatMap]

theorem exists_listed : ∃ groups, Listed servers (listingText servers) groups := by
  choose group isGroup using exists_entryLines
  refine ⟨servers.mapIdx group, ?_, List.length_mapIdx, ?_⟩
  · apply Lines.flatten
    rw [List.forall₂_map_left_iff, List.forall₂_iff_get]
    refine ⟨by simp only [List.length_mapIdx], ?_⟩
    intro i _ _
    simp only [List.get_eq_getElem, List.getElem_mapIdx]
    exact (isGroup i _).lines
  · intro i server each isServer isEach
    rw [List.getElem?_mapIdx, isServer] at isEach
    cases isEach
    exact isGroup i server

theorem oneLineEach_listingText_iff :
    OneLineEach (listingText servers) servers.length ↔ ∀ server ∈ servers, '\n' ∉ server.id.key.toList := by
  constructor
  · rintro ⟨lines, isMade, length, -⟩
    -- The lines take one line break each, and none is left for the keys.
    have count := isMade.count
    rw [count_listingText, length] at count
    have noBreak := List.count_eq_zero.mp (Nat.add_eq_left.mp count)
    intro server member inKey
    exact noBreak (List.mem_flatMap_of_mem member inKey)
  · intro unbroken
    refine ⟨servers.mapIdx Liteserver.listingLine, ⟨rfl, ?_⟩, List.length_mapIdx, ?_⟩
    · intro line member
      obtain ⟨i, inBounds, rfl⟩ := List.mem_mapIdx.mp member
      rw [← List.count_eq_zero, count_listingLine, List.count_eq_zero]
      exact unbroken _ (List.getElem_mem inBounds)
    · intro i line isLine
      rw [List.getElem?_mapIdx] at isLine
      obtain ⟨server, -, rfl⟩ := Option.map_eq_some_iff.mp isLine
      exact ⟨server.endpointText ++ " " ++ server.id.key, by simp [Liteserver.listingLine, String.append_assoc]⟩

end Listing

/-! ## The run -/

section Run

variable {path : String} {before : FileTree} {config : NetworkConfig} {servers : List Liteserver}

theorem runList_of_failure {failure : CommandFailure}
    (loaded : loadConfig (m := StateM FileTree) path before = (.error failure, before)) :
    runList (m := StateM FileTree) path before = (failed failure [], before) := by
  simp only [runList, bind, StateT.bind, loaded]
  rfl

theorem runList_of_servers (loaded : loadConfig (m := StateM FileTree) path before = (.ok config, before))
    (decoded : config.liteservers = .ok servers) :
    runList (m := StateM FileTree) path before = ({ output := listingText servers }, before) := by
  have listed := NetworkConfig.listConfig_of_liteservers decoded
  simp only [runList, bind, StateT.bind, loaded, listed]
  rfl

theorem runList_of_unlistable
    (unlistable : ¬ ∃ config servers, loadConfig (m := StateM FileTree) path before = (.ok config, before) ∧
      config.liteservers = .ok servers) :
    ∃ failure, runList (m := StateM FileTree) path before = (failed failure [], before) := by
  rcases loadConfig_cases path before with ⟨failure, -, loaded⟩ | ⟨-, config, -, -, loaded⟩
  · exact ⟨failure, runList_of_failure loaded⟩
  · cases decoded : config.liteservers with
    | ok servers => exact absurd ⟨config, servers, loaded, decoded⟩ unlistable
    | error e => exact ⟨.fleet e, NetworkConfig.runList_of_error loaded decoded⟩

theorem loadConfig_ofServers (servers : List Liteserver) :
    let tree : FileTree :=
      { nodes := [(["net"], .file (NetworkConfig.ofServers servers).toValue.compactText.toUTF8)] }
    loadConfig (m := StateM FileTree) "net" tree = (.ok (NetworkConfig.ofServers servers), tree) := by
  intro tree
  have stored : tree.readFile "net" = .ok (NetworkConfig.ofServers servers).toValue.compactText.toUTF8 :=
    FileTree.readFile_eq_ok_iff.mpr ⟨["net"], rfl, rfl⟩
  exact NetworkConfig.loadConfig_of_readFile stored (NetworkConfig.parse_ofServers servers)

/-- A listing succeeds exactly if the config loads and all its entries decode.  Its lines are then those of the
liteservers in order, and there are as many of them as liteservers and line breaks in keys; so there is one line for
each liteserver, with its index in front, exactly if no key holds a line break. -/
theorem runList_lines (path : String) (before : FileTree) :
    ∃ outcome, runList (m := StateM FileTree) path before = (outcome, before) ∧
      (outcome.exitCode = 0 ↔ ∃ config servers,
        loadConfig (m := StateM FileTree) path before = (.ok config, before) ∧
          config.liteservers = .ok servers) ∧
      ∀ config servers, loadConfig (m := StateM FileTree) path before = (.ok config, before) →
        config.liteservers = .ok servers →
          (∃ groups, Listed servers outcome.output groups) ∧
          outcome.output.toList.count '\n' =
            config.entries.length + (servers.flatMap fun server => server.id.key.toList).count '\n' ∧
          (OneLineEach outcome.output config.entries.length ↔
            ∀ server ∈ servers, '\n' ∉ server.id.key.toList) := by
  by_cases listable : ∃ config servers,
      loadConfig (m := StateM FileTree) path before = (.ok config, before) ∧ config.liteservers = .ok servers
  · obtain ⟨config, servers, loaded, decoded⟩ := listable
    refine ⟨_, runList_of_servers loaded decoded, iff_of_true rfl ⟨config, servers, loaded, decoded⟩, ?_⟩
    intro other otherServers loadedToo decodedToo
    cases loaded.symm.trans loadedToo
    cases decoded.symm.trans decodedToo
    have length := (NetworkConfig.liteservers_eq_ok_iff.mp decoded).length_eq
    rw [length]
    exact ⟨exists_listed servers, count_listingText servers, oneLineEach_listingText_iff servers⟩
  · obtain ⟨failure, ran⟩ := runList_of_unlistable listable
    refine ⟨_, ran, iff_of_false Nat.one_ne_zero listable, ?_⟩
    intro config servers loaded decoded
    exact absurd ⟨config, servers, loaded, decoded⟩ listable

/-- A carriage return, a quotation mark and a blank in a key do no harm. -/
theorem runList_lines_carriage_return :
    let server (ip : Int64) (key : String) : Liteserver := { ip, port := 7, id := { keyType := "p", key } }
    let servers := [server (-1) "A\r 1 \"=", server 258 ""]
    let config := NetworkConfig.ofServers servers
    let tree : FileTree := { nodes := [(["net"], .file config.toValue.compactText.toUTF8)] }
    ∃ outcome, runList (m := StateM FileTree) "net" tree = (outcome, tree) ∧ outcome.exitCode = 0 ∧
      loadConfig (m := StateM FileTree) "net" tree = (.ok config, tree) ∧ config.liteservers = .ok servers ∧
        outcome.output.toList.count '\n' = 2 ∧ OneLineEach outcome.output 2 := by
  intro server servers config tree
  have loaded := loadConfig_ofServers servers
  have decoded := NetworkConfig.liteservers_ofServers servers
  obtain ⟨outcome, ran, success, listing⟩ := runList_lines "net" tree
  obtain ⟨-, count, each⟩ := listing config servers loaded decoded
  have exit : outcome.exitCode = 0 := success.mpr ⟨config, servers, loaded, decoded⟩
  have unbroken : ∀ server ∈ servers, '\n' ∉ server.id.key.toList := by decide
  exact ⟨outcome, ran, exit, loaded, decoded, count.trans (by decide), each.mpr unbroken⟩

/-- A line break in the only key breaks the only line: the second line belongs to no liteserver, and no index stands in
front of it. -/
theorem not_oneLineEach_broken_key :
    let text := "\x7b\"@type\":\"\",\"dht\":\x7b\x7d,\"liteservers\":[" ++
      "\x7b\"id\":\x7b\"@type\":\"p\",\"key\":\"A\\nB=\"\x7d,\"ip\":1,\"port\":7\x7d]," ++
      "\"validator\":\x7b\x7d\x7d"
    let tree : FileTree := { nodes := [(["net"], .file text.toUTF8)] }
    ∃ outcome config, runList (m := StateM FileTree) "net" tree = (outcome, tree) ∧ outcome.exitCode = 0 ∧
      loadConfig (m := StateM FileTree) "net" tree = (.ok config, tree) ∧ config.entries.length = 1 ∧
        outcome.output = "0 0.0.0.1:7 A\nB=\n" ∧ ¬ OneLineEach outcome.output config.entries.length := by
  intro text tree
  let server : Liteserver := { ip := 1, port := 7, id := { keyType := "p", key := "A\nB=" } }
  have isText : (NetworkConfig.ofServers [server]).toValue.compactText = text := by decide +kernel
  have loaded := loadConfig_ofServers [server]
  rw [isText] at loaded
  have decoded := NetworkConfig.liteservers_ofServers [server]
  have isOutput : listingText [server] = "0 0.0.0.1:7 A\nB=\n" := by decide +kernel
  refine ⟨_, _, runList_of_servers loaded decoded, rfl, loaded, rfl, isOutput, ?_⟩
  intro each
  have unbroken := (oneLineEach_listingText_iff [server]).mp each server (List.mem_singleton_self server)
  exact absurd unbroken (by decide)

end Run

end LiteserverFleet.CommandLine
