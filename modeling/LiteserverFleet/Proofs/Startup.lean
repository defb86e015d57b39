import LiteserverFleet.Proofs.Files.Tree
import LiteserverFleet.Startup
import Mathlib.Data.List.Forall2

/-!
# The connections of a start

Connections are attempted one after the other until one of them is refused (`connectAll_opening`), each with the
settings of the document of its index.  So an index is attempted as soon as the key store is prepared and all those
in front of it are open, and a start that succeeds has the connections in the order of the documents
(`bootstrap_connection`).
-/

set_option autoImplicit false

namespace LiteserverFleet.Startup

variable {γ : Type} {settings : Settings} {connect : Connector γ} {documents : List Json.Value}

/-! ## Attempts in order -/

abbrev Attempt := Nat × ConnectionSettings

/-- The attempts that are made of those that are wanted, and what comes of them.  No index is attempted twice, so a
connector that remembers what it was asked for is covered by one that only looks at the index. -/
inductive Opening (connect : Connector γ) :
    List Attempt → List Attempt → Except FleetError (List γ) → Prop where
  | all {wanted : List Attempt} {connections : List γ}
      (each : List.Forall₂ (fun attempt connection => connect attempt.1 attempt.2 = .ok connection)
        wanted connections) : Opening connect wanted wanted (.ok connections)
  | refused {earlier later : List Attempt} {attempt : Attempt} {connections : List γ} {e : FleetError}
      (each : List.Forall₂ (fun attempt connection => connect attempt.1 attempt.2 = .ok connection)
        earlier connections)
      (refusal : connect attempt.1 attempt.2 = .error e) :
      Opening connect (earlier ++ attempt :: later) (earlier ++ [attempt]) (.error e)

section Opening

variable {wanted made : List Attempt} {result : Except FleetError (List γ)} {attempt : Attempt}
  {connections : List γ}

theorem Opening.cons {connection : γ} (opened : connect attempt.1 attempt.2 = .ok connection)
    (rest : Opening connect wanted made result) :
    Opening connect (attempt :: wanted) (attempt :: made) (result.map (connection :: ·)) := by
  cases rest with
  | all each => exact .all (.cons opened each)
  | refused each refusal => exact .refused (.cons opened each) refusal

theorem opened_of_forall₂ {k : Nat}
    (each : List.Forall₂ (fun attempt connection => connect attempt.1 attempt.2 = .ok connection)
      made connections) (isMade : made[k]? = some attempt) :
    ∃ connection, connections[k]? = some connection ∧ connect attempt.1 attempt.2 = .ok connection := by
  obtain ⟨sameLength, opened⟩ := List.forall₂_iff_get.mp each
  obtain ⟨inside, rfl⟩ := List.getElem?_eq_some_iff.mp isMade
  have insideToo : k < connections.length := sameLength ▸ inside
  exact ⟨connections[k], List.getElem?_eq_getElem insideToo, opened k inside insideToo⟩

theorem Opening.wanted_of_made (opening : Opening connect wanted made result) {k : Nat}
    (isMade : made[k]? = some attempt) : wanted[k]? = some attempt := by
  cases opening with
  | all => exact isMade
  | refused =>
      obtain ⟨inside, -⟩ := List.getElem?_eq_some_iff.mp isMade
      rw [List.append_cons, List.getElem?_append_left inside, isMade]

theorem Opening.earlier_of_made (opening : Opening connect wanted made result) {j k : Nat}
    (isMade : made[k]? = some attempt) (less : j < k) :
    ∃ earlier connection, made[j]? = some earlier ∧ connect earlier.1 earlier.2 = .ok connection := by
  obtain ⟨inside, -⟩ := List.getElem?_eq_some_iff.mp isMade
  cases opening with
  | all each =>
      have isEarlier := List.getElem?_eq_getElem (Nat.lt_trans less inside)
      obtain ⟨connection, -, opened⟩ := opened_of_forall₂ each isEarlier
      exact ⟨_, connection, isEarlier, opened⟩
  | @refused opened _ _ _ _ each =>
      rw [List.length_append, List.length_singleton] at inside
      have isOpened : j < opened.length := Nat.lt_of_lt_of_le less (Nat.le_of_lt_succ inside)
      have isEarlier := List.getElem?_eq_getElem isOpened
      obtain ⟨connection, -, answer⟩ := opened_of_forall₂ each isEarlier
      refine ⟨_, connection, ?_, answer⟩
      rw [List.getElem?_append_left isOpened, isEarlier]

theorem Opening.made_of_earlier (opening : Opening connect wanted made result) {k : Nat}
    (isWanted : wanted[k]? = some attempt)
    (allOpen : ∀ j < k, ∃ earlier connection,
      made[j]? = some earlier ∧ connect earlier.1 earlier.2 = .ok connection) :
    made[k]? = some attempt := by
  cases opening with
  | all => exact isWanted
  | @refused opened later attempt _ _ _ refusal =>
      -- A refused attempt is the last one, so nothing behind it can have all connections in front of it.
      have within : k ≤ opened.length := by
        by_contra beyond
        obtain ⟨last, connection, isLast, answer⟩ := allOpen _ (Nat.lt_of_not_le beyond)
        rw [List.getElem?_concat_length] at isLast
        cases isLast
        cases refusal.symm.trans answer
      have inside : k < (opened ++ [attempt]).length := by
        rw [List.length_append, List.length_singleton]
        exact Nat.lt_succ_of_le within
      rwa [List.append_cons, List.getElem?_append_left inside] at isWanted

/-- An attempt is made as soon as those in front of it have been made and have led to connections. -/
theorem Opening.made_iff (opening : Opening connect wanted made result) {k : Nat} :
    made[k]? = some attempt ↔ wanted[k]? = some attempt ∧ ∀ j < k, ∃ earlier connection,
      made[j]? = some earlier ∧ connect earlier.1 earlier.2 = .ok connection :=
  ⟨fun isMade => ⟨opening.wanted_of_made isMade, fun _ => opening.earlier_of_made isMade⟩,
    fun both => opening.made_of_earlier both.1 both.2⟩

theorem Opening.opened (opening : Opening connect wanted made (.ok connections)) {k : Nat}
    (isWanted : wanted[k]? = some attempt) : made[k]? = some attempt ∧
      ∃ connection, connections[k]? = some connection ∧ connect attempt.1 attempt.2 = .ok connection := by
  cases opening with
  | all each => exact ⟨isWanted, opened_of_forall₂ each isWanted⟩

end Opening

/-! ## Opening the connections of documents -/

theorem connectAll_opening (settings : Settings) (connect : Connector γ) (start : Nat)
    (documents : List Json.Value) :
    Opening connect
      (documents.mapIdx fun k document => (start + k, connectionSettings settings (start + k) document))
      (connectAll settings connect start documents).attempts
      (connectAll settings connect start documents).result := by
  induction documents generalizing start with
  | nil => exact .all .nil
  | cons document rest ih =>
      have later := ih (start + 1)
      simp only [Nat.add_assoc, Nat.add_comm 1] at later
      rw [List.mapIdx_cons, connectAll]
      cases answer : connect start (connectionSettings settings start document) with
      | error e => exact .refused .nil answer
      | ok connection => exact later.cons answer

/-- The attempts that documents ask for. -/
def asked (settings : Settings) (documents : List Json.Value) : List Attempt :=
  documents.mapIdx fun index document => (index, connectionSettings settings index document)

theorem connectAll_asked (settings : Settings) (connect : Connector γ) (documents : List Json.Value) :
    Opening connect (asked settings documents) (connectAll settings connect 0 documents).attempts
      (connectAll settings connect 0 documents).result := by
  simpa only [asked, Nat.zero_add] using connectAll_opening settings connect 0 documents

section Asked

variable {made : List Attempt} {result : Except FleetError (List γ)} {index : Nat} {document : Json.Value}

theorem asked_of_document (settings : Settings) (isDocument : documents[index]? = some document) :
    (asked settings documents)[index]? = some (index, connectionSettings settings index document) := by
  rw [asked, List.getElem?_mapIdx, isDocument]
  rfl

theorem asked_index {attempt : Attempt} (isAsked : (asked settings documents)[index]? = some attempt) :
    attempt.1 = index := by
  rw [asked, List.getElem?_mapIdx] at isAsked
  obtain ⟨document, -, rfl⟩ := Option.map_eq_some_iff.mp isAsked
  rfl

/-- An attempt stands at its index. -/
theorem Opening.mem_iff (opening : Opening connect (asked settings documents) made result)
    {wanted : ConnectionSettings} : (index, wanted) ∈ made ↔ made[index]? = some (index, wanted) := by
  refine ⟨fun member => ?_, List.mem_of_getElem?⟩
  obtain ⟨k, isMade⟩ := List.mem_iff_getElem?.mp member
  obtain rfl := asked_index (opening.wanted_of_made isMade)
  exact isMade

/-- The connection of an index is attempted as soon as those in front of it are open. -/
theorem Opening.attempted_iff (opening : Opening connect (asked settings documents) made result)
    (isDocument : documents[index]? = some document) :
    (index, connectionSettings settings index document) ∈ made ↔ ∀ j < index, ∃ earlier connection,
      (j, earlier) ∈ made ∧ connect j earlier = .ok connection := by
  rw [opening.mem_iff, opening.made_iff, and_iff_right (asked_of_document settings isDocument)]
  refine forall₂_congr fun j _ => ⟨?_, ?_⟩
  · rintro ⟨earlier, connection, isMade, answer⟩
    obtain rfl := asked_index (opening.wanted_of_made isMade)
    exact ⟨earlier.2, connection, List.mem_of_getElem? isMade, answer⟩
  · rintro ⟨earlier, connection, member, answer⟩
    exact ⟨_, connection, opening.mem_iff.mp member, answer⟩

end Asked

/-! ## Starting from a file -/

theorem documents_of_readText {t : FileTree} {text : String}
    (read : t.readText settings.configPath = .ok text) :
    Startup.documents (m := StateM FileTree) settings t =
      (NetworkConfig.parse text >>= NetworkConfig.partition, t) := by
  simp only [Startup.documents, bind, StateT.bind, FileTree.store_readText, read]
  rfl

/-- Once there are documents, the key store is prepared; if it cannot be, no connection is attempted. -/
theorem bootstrap_of_documents {before after : FileTree} {outcome : Except FleetError Unit}
    {notices : List Notice}
    (taken : Startup.documents (m := StateM FileTree) settings before = (.ok documents, before))
    (prepared : prepareKeyStore (m := StateM FileTree) settings before = ((outcome, notices), after)) :
    ∃ startup, bootstrap (m := StateM FileTree) settings connect before = (startup, after) ∧
      (∀ e, outcome = .error e → startup.result = .error e ∧ startup.attempts = []) ∧
      (outcome = .ok () → Opening connect (asked settings documents) startup.attempts startup.result) := by
  simp only [bootstrap, bind, StateT.bind, taken, prepared]
  cases outcome with
  | error e =>
      refine ⟨_, rfl, ?_, nofun⟩
      intro other same
      cases same
      exact ⟨rfl, rfl⟩
  | ok => exact ⟨_, rfl, nofun, fun _ => connectAll_asked settings connect documents⟩

/-- An index is attempted as soon as the key store is prepared and all those in front of it are open, with the
connection of the document there; and a start that succeeds has opened it. -/
theorem bootstrap_connection {before : FileTree} {text : String} {index : Nat} {document : Json.Value}
    (read : before.readFile settings.configPath = .ok text.toUTF8)
    (partitioned : (NetworkConfig.parse text >>= NetworkConfig.partition) = .ok documents)
    (isDocument : documents[index]? = some document) :
    let startup := (bootstrap (m := StateM FileTree) settings connect before).1
    let wanted := connectionSettings settings index document
    ((index, wanted) ∈ startup.attempts ↔
      (prepareKeyStore (m := StateM FileTree) settings before).1.1 = .ok () ∧ ∀ j < index,
        ∃ earlier connection, (j, earlier) ∈ startup.attempts ∧ connect j earlier = .ok connection) ∧
    (∀ attempt, (index, attempt) ∈ startup.attempts → attempt = wanted) ∧
    ∀ connections, startup.result = .ok connections → ∃ connection,
      (index, wanted) ∈ startup.attempts ∧ connect index wanted = .ok connection ∧
        connections[index]? = some connection := by
  have taken := documents_of_readText (FileTree.readText_eq_ok_iff.mpr read)
  rw [partitioned] at taken
  rcases prepared : prepareKeyStore (m := StateM FileTree) settings before with ⟨⟨outcome, notices⟩, after⟩
  obtain ⟨startup, ran, failed, opened⟩ := @bootstrap_of_documents γ settings connect _ _ _ _ _ taken prepared
  rw [ran]
  dsimp only
  cases outcome with
  | error e =>
      obtain ⟨result, noAttempts⟩ := failed e rfl
      rw [noAttempts, result]
      exact ⟨⟨nofun, nofun⟩, nofun, nofun⟩
  | ok =>
      have opening := opened rfl
      have isAsked := asked_of_document settings isDocument
      refine ⟨?_, ?_, ?_⟩
      · rw [opening.attempted_iff isDocument]
        exact (and_iff_right rfl).symm
      · intro attempt attempted
        have isWanted := opening.wanted_of_made (opening.mem_iff.mp attempted)
        cases isWanted.symm.trans isAsked
        rfl
      · intro connections success
        rw [success] at opening
        obtain ⟨isMade, connection, atIndex, answer⟩ := opening.opened isAsked
        exact ⟨connection, List.mem_of_getElem? isMade, answer, atIndex⟩

end LiteserverFleet.Startup
