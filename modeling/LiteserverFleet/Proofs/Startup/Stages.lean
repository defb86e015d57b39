import LiteserverFleet.Proofs.Network.Partition
import LiteserverFleet.Proofs.Startup
import LiteserverFleet.Proofs.Startup.KeyStore

/-!
# The stages of a start

A start reads and partitions the config, prepares the key store and opens the connections, in this order, and the
first failure ends it (`start_staged`).  Until the config is partitioned nothing has happened to the tree; until the
key store is prepared no connection has been attempted; and connections are attempted one after the other until one
of them is refused (`connectAll_opening`).
-/

set_option autoImplicit false

namespace LiteserverFleet.Startup

variable {γ : Type} {settings : Settings} {connect : Connector γ} {before after : FileTree}

/-! ## The connections that are wanted -/

/-- The connections that a config asks for: one for each entry, under its index and with a key store of its own. -/
def wanted (settings : Settings) (config : NetworkConfig) : List Attempt :=
  config.entries.mapIdx fun index entry =>
    (index,
      { networkConfig := (config.withEntry entry).toValue.compactText
        keyStore := settings.keyStoreRoot.map fun root => Path.join root (Path.numbered index "")
        networkName := settings.networkName })

theorem wanted_eq (settings : Settings) (config : NetworkConfig) :
    wanted settings config = asked settings (config.entries.map fun entry => (config.withEntry entry).toValue) := by
  apply List.ext_getElem?
  intro k
  simp only [wanted, asked, List.getElem?_mapIdx, List.getElem?_map, Option.map_map, connectionSettings,
    workerKeyStore_eq, Function.comp_def]

/-- The key stores of different connections are never the same directory. -/
theorem wanted_pairwise (settings : Settings) (config : NetworkConfig) :
    (wanted settings config).Pairwise fun first second => ∀ path other,
      first.2.keyStore = some path → second.2.keyStore = some other →
        path ≠ other ∧ FileTree.Apart path other := by
  rw [List.pairwise_iff_getElem]
  intro i j _ _ before path other isPath isOther
  simp only [wanted, List.getElem_mapIdx] at isPath isOther
  obtain ⟨root, isRoot, rfl⟩ := Option.map_eq_some_iff.mp isPath
  obtain ⟨same, isSame, rfl⟩ := Option.map_eq_some_iff.mp isOther
  cases isRoot.symm.trans isSame
  have plain : ∀ index, Path.Plain (Path.numbered index "") := fun index =>
    Path.numbered_plain index List.not_mem_nil
  have different : Path.numbered i "" ≠ Path.numbered j "" :=
    mt Path.numbered_injective (Nat.ne_of_lt before)
  constructor
  · exact mt (Path.join_injective (plain i) (plain j)) different
  · exact FileTree.apart_join (plain i) (plain j) different root

/-! ## The stages -/

/-- What keeps a start from touching anything, in the order in which it is found out. -/
inductive Refused (settings : Settings) (t : FileTree) : FleetError → Prop where
  | invalid {e : FleetError} (invalid : settings.validate = .error e) : Refused settings t e
  | unreadable {cause : FileFailure} (valid : settings.validate = .ok ())
      (unread : t.readText settings.configPath = .error cause) :
      Refused settings t (.configRead settings.configPath cause)
  | malformed {text : String} {e : FleetError} (valid : settings.validate = .ok ())
      (read : t.readText settings.configPath = .ok text) (bad : NetworkConfig.parse text = .error e) :
      Refused settings t e
  | noEntries {text : String} {config : NetworkConfig} (valid : settings.validate = .ok ())
      (read : t.readText settings.configPath = .ok text) (parsed : NetworkConfig.parse text = .ok config)
      (empty : config.entries = []) : Refused settings t .noLiteservers

/-- The settings are valid and lead to a config with entries. -/
structure Ready (settings : Settings) (t : FileTree) (config : NetworkConfig) : Prop where
  valid : settings.validate = .ok ()
  read : ∃ text, t.readText settings.configPath = .ok text ∧ NetworkConfig.parse text = .ok config
  entries : config.entries ≠ []

/-- What becomes of the tree before connections are opened: it stays, or the key store is reset. -/
inductive Prepared (settings : Settings) (t : FileTree) : Except FleetError Unit → FileTree → Prop where
  | unasked (none : settings.keyStoreRoot = none ∨ settings.resetKeyStore = false) :
      Prepared settings t (.ok ()) t
  | reset {root : String} {outcome : Except FleetError Unit} {notices : List Notice} {after : FileTree}
      (isRoot : settings.keyStoreRoot = some root) (asked : settings.resetKeyStore = true)
      (ran : resetKeyStore (m := StateM FileTree) root t = ((outcome, notices), after)) :
      Prepared settings t outcome after

theorem prepareKeyStore_prepared {outcome : Except FleetError Unit} {notices : List Notice}
    (ran : prepareKeyStore (m := StateM FileTree) settings before = ((outcome, notices), after)) :
    Prepared settings before outcome after := by
  unfold prepareKeyStore at ran
  cases isRoot : settings.keyStoreRoot with
  | none =>
      rw [isRoot] at ran
      cases ran
      exact .unasked (.inl isRoot)
  | some root =>
      cases asked : settings.resetKeyStore with
      | false =>
          rw [isRoot, asked] at ran
          cases ran
          exact .unasked (.inr asked)
      | true =>
          rw [isRoot, asked] at ran
          exact .reset isRoot asked ran

/-- When connections are opened, the key store has been emptied if that is asked for. -/
theorem Prepared.emptied {root : String} (prepared : Prepared settings before (.ok ()) after)
    (isRoot : settings.keyStoreRoot = some root) (asked : settings.resetKeyStore = true) (nonempty : root ≠ "")
    (found : before.pathExists root = .ok true ∨ ".." ∉ Path.names root ∧ before.Grounded) :
    ∃ place, Emptied root before after place ∧
      (".." ∉ Path.names root → ∀ other, other.Below place → after.node? other = none) := by
  cases prepared with
  | unasked notAsked =>
      rcases notAsked with none | notAsked
      · cases none.symm.trans isRoot
      · cases asked.symm.trans notAsked
  | reset isRootToo _ ran =>
      cases isRoot.symm.trans isRootToo
      obtain ⟨place, emptied⟩ := resetKeyStore_emptied nonempty found ran
      exact ⟨place, emptied, fun noDots other => emptied.nothing noDots⟩

/-- Reading the documents leaves the tree as it is.  They are those of the config, or the start is refused. -/
theorem documents_cases (valid : settings.validate = .ok ()) (t : FileTree) :
    (∃ e, Refused settings t e ∧ documents (m := StateM FileTree) settings t = (.error e, t)) ∨
      ∃ config, Ready settings t config ∧ documents (m := StateM FileTree) settings t =
        (.ok (config.entries.map fun entry => (config.withEntry entry).toValue), t) := by
  cases read : t.readText settings.configPath with
  | error cause =>
      refine .inl ⟨_, .unreadable valid read, ?_⟩
      simp only [documents, bind, StateT.bind, FileTree.store_readText, read]
      rfl
  | ok text =>
      rw [documents_of_readText read]
      cases parsed : NetworkConfig.parse text with
      | error e => exact .inl ⟨e, .malformed valid read parsed, rfl⟩
      | ok config =>
          have partitioned : (Except.ok config >>= NetworkConfig.partition) = config.partition := rfl
          rw [partitioned]
          by_cases empty : config.entries = []
          · rw [NetworkConfig.partition_of_noEntries empty]
            exact .inl ⟨_, .noEntries valid read parsed empty, rfl⟩
          · rw [NetworkConfig.partition_of_entries empty]
            exact .inr ⟨config, ⟨valid, ⟨text, read, parsed⟩, empty⟩, rfl⟩

theorem start_of_invalid {e : FleetError} (invalid : settings.validate = .error e) (t : FileTree) :
    start (m := StateM FileTree) settings connect t = (⟨.error e, [], []⟩, t) := by
  rw [start, invalid]
  rfl

theorem start_of_valid {bootstrapped : Startup γ} (valid : settings.validate = .ok ())
    (ran : bootstrap (m := StateM FileTree) settings connect before = (bootstrapped, after)) :
    ∃ notices, start (m := StateM FileTree) settings connect before =
      (⟨bootstrapped.result, bootstrapped.attempts, notices⟩, after) := by
  simp only [start, valid, bind, StateT.bind, ran]
  obtain ⟨result, attempts, notices⟩ := bootstrapped
  cases result with
  | error e => exact ⟨notices, rfl⟩
  | ok connections => exact ⟨_, rfl⟩

/-- A start either is refused, and then the tree stays and nothing is attempted, or the config names the connections
that are wanted.  They are attempted in order once the key store is prepared, and not at all if it cannot be. -/
theorem start_staged (settings : Settings) (connect : Connector γ) (before : FileTree) :
    ∃ startup after, start (m := StateM FileTree) settings connect before = (startup, after) ∧
      ((∃ e, Refused settings before e ∧
          startup.result = .error e ∧ startup.attempts = [] ∧ after = before) ∨
        ∃ config, Ready settings before config ∧ ∃ outcome, Prepared settings before outcome after ∧
          (∀ e, outcome = .error e → startup.result = .error e ∧ startup.attempts = []) ∧
          (outcome = .ok () → Opening connect (wanted settings config) startup.attempts startup.result)) ∧
      ∀ config, (wanted settings config).Pairwise fun first second => ∀ path other,
        first.2.keyStore = some path → second.2.keyStore = some other →
          path ≠ other ∧ FileTree.Apart path other := by
  cases valid : settings.validate with
  | error e =>
      have refused : Refused settings before e := .invalid valid
      exact ⟨_, _, start_of_invalid valid before, .inl ⟨e, refused, rfl, rfl, rfl⟩, wanted_pairwise settings⟩
  | ok =>
      rcases documents_cases valid before with ⟨e, refused, taken⟩ | ⟨config, ready, taken⟩
      · have ran : bootstrap (m := StateM FileTree) settings connect before =
            ({ result := .error e }, before) := by
          simp only [bootstrap, bind, StateT.bind, taken]
          rfl
        obtain ⟨notices, started⟩ := start_of_valid valid ran
        exact ⟨_, _, started, .inl ⟨e, refused, rfl, rfl, rfl⟩, wanted_pairwise settings⟩
      · rcases prepared : prepareKeyStore (m := StateM FileTree) settings before with
          ⟨⟨outcome, keyNotices⟩, after⟩
        obtain ⟨bootstrapped, ran, failed, opened⟩ :=
          @bootstrap_of_documents γ settings connect _ _ _ _ _ taken prepared
        obtain ⟨notices, started⟩ := start_of_valid valid ran
        refine ⟨_, _, started, .inr ⟨config, ready, outcome, prepareKeyStore_prepared prepared, failed, ?_⟩,
          wanted_pairwise settings⟩
        rw [wanted_eq]
        exact opened

end LiteserverFleet.Startup
