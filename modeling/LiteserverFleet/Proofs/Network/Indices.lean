import LiteserverFleet.Network.Liteserver
import LiteserverFleet.Proofs.CommandLine.Split
import LiteserverFleet.Proofs.Json.Decoding
import LiteserverFleet.Proofs.Network.Partition
import LiteserverFleet.Proofs.Startup

/-!
# The index of a liteserver

An index shows as a number in a listing, in the name of a split file, in a list of documents and as the number of a
connection.  Whatever is found there is the config with the one entry of this index (`denotes_entry`).
-/

set_option autoImplicit false

namespace LiteserverFleet.NetworkConfig

open Json (Value)

/-! ## Entries and documents -/

section Entries

variable {text : String} {config : NetworkConfig} {i : Nat} {entry : Value}

theorem partition_of_entry (isEntry : config.entries[i]? = some entry) :
    config.partition = .ok (config.entries.map fun each => (config.withEntry each).toValue) :=
  partition_of_entries (List.ne_nil_of_mem (List.mem_of_getElem? isEntry))

theorem documents_getElem? (isEntry : config.entries[i]? = some entry) :
    (config.entries.map fun each => (config.withEntry each).toValue)[i]? =
      some (config.withEntry entry).toValue := by
  rw [List.getElem?_map, isEntry]
  rfl

theorem fits_of_parse (parsed : parse text = .ok config) : config.Fits 125 := by
  obtain ⟨v, isValue, read⟩ := parse_eq_ok parsed
  exact fits_of_within (Json.within_of_parse isValue) read

variable (parsed : parse text = .ok config) (integral : config.Integral)
include parsed integral

theorem compactText_of_entry (isEntry : config.entries[i]? = some entry) :
    parse (config.withEntry entry).toValue.compactText = .ok (config.withEntry entry) := by
  have member := List.mem_of_getElem? isEntry
  exact parse_compactText ((fits_of_parse parsed).withEntry member) (integral.withEntry member)

theorem prettyText_of_entry (isEntry : config.entries[i]? = some entry) :
    parse (config.withEntry entry).toValue.prettyText = .ok (config.withEntry entry) := by
  have member := List.mem_of_getElem? isEntry
  have fits := (fits_of_parse parsed).withEntry member
  exact parse_document (Json.parse_prettyText fits.toValue (integral.withEntry member).toValue)

end Entries

/-! ## Typed entries -/

theorem liteservers_withEntry {config : NetworkConfig} {servers : List Liteserver} {i : Nat} {entry : Value}
    (decoded : config.liteservers = .ok servers) (isEntry : config.entries[i]? = some entry) :
    ∃ server, servers[i]? = some server ∧ (config.withEntry entry).liteservers = .ok [server] := by
  obtain ⟨server, isServer, atIndex⟩ := Json.mapM_getElem? decoded isEntry
  refine ⟨server, atIndex, ?_⟩
  simp only [liteservers, withEntry, List.mapM_cons, isServer]
  rfl

theorem listConfig_eq_ok {config : NetworkConfig} {lines : List String}
    (listed : listConfig config = .ok lines) :
    ∃ servers, config.liteservers = .ok servers ∧ lines = servers.mapIdx Liteserver.listingLine := by
  unfold listConfig listing at listed
  cases decoded : config.liteservers with
  | error e =>
      rw [decoded] at listed
      cases listed
  | ok servers =>
      rw [decoded] at listed
      cases listed
      exact ⟨servers, rfl, rfl⟩

/-! ## What an index denotes -/

/-- What stands at an index of a config, wherever the index shows, is one and the same config. -/
structure Denotes (text : String) (config : NetworkConfig) (i : Nat) (single : NetworkConfig) : Prop where
  document : ∃ documents document, splitText text = .ok documents ∧ documents[i]? = some document ∧
    parse document = .ok single
  /-- A split that has written the file leaves it so that it loads as this config; a split that succeeds
  has written the file and returns its path at the index. -/
  file : ∀ (directory : String) (before after : FileTree)
    (result : Except CommandFailure (List String)) (notices : List Notice),
    Split.write (m := StateM FileTree) config directory before = ((result, notices), after) →
      (Notice.wrote (Path.join directory (Split.fileName i)) ∈ notices →
        loadConfig (m := StateM FileTree) (Path.join directory (Split.fileName i)) after =
          (.ok single, after)) ∧
      ∀ paths, result = .ok paths → paths[i]? = some (Path.join directory (Split.fileName i)) ∧
        Notice.wrote (Path.join directory (Split.fileName i)) ∈ notices
  /-- The connection of the index is attempted as soon as the key store is prepared and all those in front of it are
  open.  Every attempt is given this config; a start that succeeds has opened it and has it at the index. -/
  connection : ∀ (γ : Type) (settings : Settings) (connect : Connector γ) (before : FileTree),
    before.readFile settings.configPath = .ok text.toUTF8 →
      let startup := (Startup.bootstrap (m := StateM FileTree) settings connect before).1
      ((∃ wanted, (i, wanted) ∈ startup.attempts) ↔
        (Startup.prepareKeyStore (m := StateM FileTree) settings before).1.1 = .ok () ∧ ∀ j < i,
          ∃ earlier connection, (j, earlier) ∈ startup.attempts ∧ connect j earlier = .ok connection) ∧
      (∀ wanted, (i, wanted) ∈ startup.attempts → parse wanted.networkConfig = .ok single) ∧
      ∀ connections, startup.result = .ok connections → ∃ wanted connection,
        (i, wanted) ∈ startup.attempts ∧ connect i wanted = .ok connection ∧
          connections[i]? = some connection
  line : ∀ lines, listConfig config = .ok lines → ∃ servers server,
    config.liteservers = .ok servers ∧ servers[i]? = some server ∧
      lines[i]? = some (server.listingLine i) ∧ single.liteservers = .ok [server]

section Denotes

variable {text : String} {config : NetworkConfig} {i : Nat} {entry : Value}

theorem document_of_entry (parsed : parse text = .ok config) (integral : config.Integral)
    (isEntry : config.entries[i]? = some entry) :
    ∃ documents document, splitText text = .ok documents ∧ documents[i]? = some document ∧
      parse document = .ok (config.withEntry entry) := by
  have split : splitText text =
      .ok ((config.entries.map fun each => (config.withEntry each).toValue).map Value.compactText) := by
    rw [splitText, parsed]
    exact congrArg (· >>= fun documents => pure (documents.map Value.compactText))
      (partition_of_entry isEntry)
  refine ⟨_, _, split, ?_, compactText_of_entry parsed integral isEntry⟩
  rw [List.getElem?_map, documents_getElem? isEntry]
  rfl

theorem loadConfig_of_readFile {t : FileTree} {path : String} (read : t.readFile path = .ok text.toUTF8)
    (parsed : parse text = .ok config) :
    loadConfig (m := StateM FileTree) path t = (.ok config, t) :=
  loadConfig_of_readText (FileTree.readText_eq_ok_iff.mpr read) parsed

theorem connection_of_entry (parsed : parse text = .ok config) (integral : config.Integral)
    (isEntry : config.entries[i]? = some entry) {γ : Type} {settings : Settings}
    {connect : Connector γ} {before : FileTree}
    (read : before.readFile settings.configPath = .ok text.toUTF8) :
    let startup := (Startup.bootstrap (m := StateM FileTree) settings connect before).1
    ((∃ wanted, (i, wanted) ∈ startup.attempts) ↔
      (Startup.prepareKeyStore (m := StateM FileTree) settings before).1.1 = .ok () ∧ ∀ j < i,
        ∃ earlier connection, (j, earlier) ∈ startup.attempts ∧ connect j earlier = .ok connection) ∧
    (∀ wanted, (i, wanted) ∈ startup.attempts → parse wanted.networkConfig = .ok (config.withEntry entry)) ∧
    ∀ connections, startup.result = .ok connections → ∃ wanted connection,
      (i, wanted) ∈ startup.attempts ∧ connect i wanted = .ok connection ∧
        connections[i]? = some connection := by
  intro startup
  have partitioned : (parse text >>= partition) =
      .ok (config.entries.map fun each => (config.withEntry each).toValue) := by
    rw [parsed]
    exact partition_of_entry isEntry
  obtain ⟨whenever, attempts, opened⟩ :=
    @Startup.bootstrap_connection γ settings connect _ _ _ _ _ read partitioned (documents_getElem? isEntry)
  refine ⟨?_, ?_, ?_⟩
  · rw [← whenever]
    refine ⟨?_, fun attempted => ⟨_, attempted⟩⟩
    rintro ⟨wanted, attempted⟩
    exact attempts wanted attempted ▸ attempted
  · intro wanted attempted
    rw [attempts wanted attempted]
    exact compactText_of_entry parsed integral isEntry
  · intro connections success
    exact ⟨_, opened connections success⟩

/-- Wherever an index shows, it denotes the config with the entry at this index. -/
theorem denotes_entry (parsed : parse text = .ok config) (integral : config.Integral)
    (isEntry : config.entries[i]? = some entry) : Denotes text config i (config.withEntry entry) where
  document := document_of_entry parsed integral isEntry
  file := by
    intro directory before after result notices ran
    obtain ⟨written, success⟩ :=
      Split.write_file (partition_of_entry isEntry) (documents_getElem? isEntry) ran
    refine ⟨?_, success⟩
    intro wrote
    exact loadConfig_of_readFile (written wrote) (prettyText_of_entry parsed integral isEntry)
  connection := fun _ _ _ _ read => connection_of_entry parsed integral isEntry read
  line := by
    intro lines listed
    obtain ⟨servers, decoded, rfl⟩ := listConfig_eq_ok listed
    obtain ⟨server, atIndex, single⟩ := liteservers_withEntry decoded isEntry
    refine ⟨servers, server, decoded, atIndex, ?_, single⟩
    rw [List.getElem?_mapIdx, atIndex]
    rfl

/-- The second of two liteservers, of which the first has an address that is stored as a negative number: its config
is what the second file of a split loads as. -/
theorem denotes_entry_second_of_two :
    let text := "\x7b\"@type\":\"t\",\"dht\":\x7b\x7d,\"liteservers\":[" ++
      "\x7b\"id\":\x7b\"@type\":\"p\",\"key\":\"AAA=\"\x7d,\"ip\":-1,\"port\":7\x7d," ++
      "\x7b\"id\":\x7b\"@type\":\"p\",\"key\":\"BBB=\"\x7d,\"ip\":258,\"port\":8\x7d]," ++
      "\"validator\":\x7b\x7d\x7d"
    let server : Liteserver := { ip := 258, port := 8, id := { keyType := "p", key := "BBB=" } }
    ∃ config single, parse text = .ok config ∧
      listConfig config = .ok ["0 255.255.255.255:7 AAA=", "1 0.0.1.2:8 BBB="] ∧
        Denotes text config 1 single ∧ single.liteservers = .ok [server] ∧
          ∃ outcome after, Split.write (m := StateM FileTree) config "out" {} = (outcome, after) ∧
            loadConfig (m := StateM FileTree) "out/ls_1.json" after = (.ok single, after) := by
  intro text server
  let entry (ip port : Json.Number) (key : String) : Value := .object [
    ("id", .object [("@type", .text "p"), ("key", .text key)]), ("ip", .number ip), ("port", .number port)]
  let config : NetworkConfig :=
    { directory := [], typeTag := "t", validator := []
      entries := [entry (.ofInt (-1)) (.ofInt 7) "AAA=", entry (.ofInt 258) (.ofInt 8) "BBB="] }
  have entryFits (ip port : Json.Number) (key : String) : (entry ip port key).Within 125 := by
    have keys : ["id", "ip", "port"].Pairwise (· < ·) := by decide
    have keysBelow : ["@type", "key"].Pairwise (· < ·) := by decide
    refine .object ((List.pairwise_map (f := Prod.fst)).mp keys) ?_
    simp only [List.forall_mem_cons]
    refine ⟨.object ((List.pairwise_map (f := Prod.fst)).mp keysBelow) ?_, .number _, .number _, nofun⟩
    simp only [List.forall_mem_cons]
    exact ⟨.text _, .text _, nofun⟩
  have entryIntegral {ip port : Json.Number} (key : String) (ipIntegral : (Value.number ip).Integral)
      (portIntegral : (Value.number port).Integral) : (entry ip port key).Integral := by
    refine .object ?_
    simp only [List.forall_mem_cons]
    refine ⟨.object ?_, ipIntegral, portIntegral, nofun⟩
    simp only [List.forall_mem_cons]
    exact ⟨.text _, .text _, nofun⟩
  have fits : config.Fits 125 := by
    refine ⟨.object .nil nofun, .object .nil nofun, ?_⟩
    simp only [config, List.forall_mem_cons]
    exact ⟨entryFits _ _ _, entryFits _ _ _, nofun⟩
  have integral : config.Integral := by
    refine ⟨.object nofun, .object nofun, ?_⟩
    simp only [config, List.forall_mem_cons]
    exact ⟨entryIntegral _ (.integer (-1) (by decide)) (.integer 7 (by decide)),
      entryIntegral _ (.integer 258 (by decide)) (.integer 8 (by decide)), nofun⟩
  have isText : config.toValue.compactText = text := by decide +kernel
  have parsed : parse text = .ok config := by
    rw [← isText]
    exact parse_compactText fits integral
  have listed : listConfig config = .ok ["0 255.255.255.255:7 AAA=", "1 0.0.1.2:8 BBB="] := by
    rfl
  have decoded : (config.withEntry (entry (.ofInt 258) (.ofInt 8) "BBB=")).liteservers = .ok [server] := by
    rfl
  have denotes : Denotes text config 1 (config.withEntry (entry (.ofInt 258) (.ofInt 8) "BBB=")) :=
    denotes_entry parsed integral rfl
  have path : Path.join "out" (Split.fileName 1) = "out/ls_1.json" := by decide +kernel
  have wrote : Notice.wrote "out/ls_1.json" ∈
      (Split.write (m := StateM FileTree) config "out" {}).1.2 := by decide +kernel
  generalize ran : Split.write (m := StateM FileTree) config "out" {} = written at wrote
  obtain ⟨⟨result, notices⟩, after⟩ := written
  obtain ⟨loads, -⟩ := denotes.file "out" {} after result notices ran
  rw [path] at loads
  exact ⟨config, _, parsed, listed, denotes, decoded, _, after, ran, loads wrote⟩

end Denotes

end LiteserverFleet.NetworkConfig
