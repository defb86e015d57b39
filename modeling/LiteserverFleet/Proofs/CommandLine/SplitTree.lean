import LiteserverFleet.CommandLine.Program
import LiteserverFleet.Proofs.CommandLine.Split
import LiteserverFleet.Proofs.Files.Directories
import LiteserverFleet.Proofs.Network.Partition

/-!
# What a split does to a tree

A split of a config that cannot be used changes nothing.  Otherwise the config has been read before anything is
written, so the files hold its documents even if one of them was the config; besides these files there are only the
directories that were missing for them, and nothing else changes, however far the split comes (`runSplit_tree`).
-/

set_option autoImplicit false

namespace LiteserverFleet.CommandLine

open Split (fileName files Holding Ends)

/-- What ends a split before it does anything. -/
inductive Unusable (path : String) (t : FileTree) : Prop where
  | unreadable {cause : FileFailure} (unread : t.readText path = .error cause)
  | notJson {text : String} {e : Json.SyntaxError} (read : t.readText path = .ok text)
      (bad : Json.parse text = .error e)
  | illTyped {text : String} {v : Json.Value} {e : FleetError} (read : t.readText path = .ok text)
      (value : Json.parse text = .ok v) (bad : NetworkConfig.ofValue v = .error e)
  | noEntries {text : String} {config : NetworkConfig} (read : t.readText path = .ok text)
      (parsed : NetworkConfig.parse text = .ok config) (empty : config.entries = [])

/-- A tree after the first files of a split are written: they are different files and hold their documents, there
are directories on the way to them where nothing was, and everything else is as before. -/
structure Wrote (directory : String) (documents : List Json.Value) (done : Nat) (before after : FileTree) :
    Prop where
  within : done ≤ documents.length
  texts : ∀ i document, i < done → documents[i]? = some document →
    after.readFile (Path.join directory (fileName i)) = .ok document.prettyText.toUTF8
  distinct : ∀ i j, i < done → j < done → i ≠ j →
    after.place (Path.join directory (fileName i)) ≠ after.place (Path.join directory (fileName j))
  frame : ∀ place, (∀ i < done, after.place (Path.join directory (fileName i)) ≠ .ok place) →
    after.node? place = before.node? place ∨
      before.node? place = none ∧ after.node? place = some .directory ∧ after.Passes directory place
  unchanged : ∀ path content, before.readFile path = .ok content →
    (∀ i < done, after.place (Path.join directory (fileName i)) ≠ after.place path) →
      after.readFile path = .ok content
  stale : ∀ k content, done ≤ k → before.readFile (Path.join directory (fileName k)) = .ok content →
    after.readFile (Path.join directory (fileName k)) = .ok content

/-- How a split of documents ends, by the number of files that it has written. -/
inductive Ending (directory : String) (documents : List Json.Value) (before after : FileTree) (outcome : Outcome) :
    Nat → Prop where
  | complete (exitCode : outcome.exitCode = 0) (output : outcome.output = toString documents.length ++ "\n") :
      Ending directory documents before after outcome documents.length
  | unwritten {done : Nat} {document : Json.Value} {e : FileFailure} (next : documents[done]? = some document)
      (failed : after.writeFile (Path.join directory (fileName done)) document.prettyText.toUTF8 =
        (.error e, after))
      (exitCode : outcome.exitCode = 1) (output : outcome.output = "")
      (errors : outcome.errors = (CommandFailure.writeConfig (Path.join directory (fileName done)) e).report) :
      Ending directory documents before after outcome done
  | unmade {e : FileFailure}
      (failed : FileStore.createDirectories (m := StateM FileTree) directory before = (.error e, after))
      (exitCode : outcome.exitCode = 1) (output : outcome.output = "")
      (errors : outcome.errors = (CommandFailure.createDirectory directory e).report) :
      Ending directory documents before after outcome 0

section Tree

variable {directory : String} {documents : List Json.Value} {done : Nat} {before made after : FileTree}

theorem mem_take_files {file : String × String} :
    file ∈ (files directory documents).take done ↔ ∃ i < done, ∃ document, documents[i]? = some document ∧
      file = (Path.join directory (fileName i), document.prettyText) := by
  simp only [List.mem_iff_getElem?, List.getElem?_take]
  constructor
  · rintro ⟨i, found⟩
    split at found
    · next less =>
      obtain ⟨document, isDocument, isFile⟩ := Split.files_eq_some found
      exact ⟨i, less, document, isDocument, isFile⟩
    · cases found
  · rintro ⟨i, less, document, isDocument, rfl⟩
    exact ⟨i, by rw [if_pos less, Split.files_getElem? isDocument]⟩

section Holding

variable (holding : Holding ((files directory documents).take done) made after)
include holding

theorem text_of_holding {i : Nat} {document : Json.Value} (less : i < done)
    (isDocument : documents[i]? = some document) :
    after.readFile (Path.join directory (fileName i)) = .ok document.prettyText.toUTF8 :=
  holding.texts (Path.join directory (fileName i), document.prettyText)
    (mem_take_files.mpr ⟨i, less, document, isDocument, rfl⟩)

/-- A file that is written can be read, so its path leads somewhere, and no other one leads there. -/
theorem place_ne_of_holding (within : done ≤ documents.length) {i k : Nat} (less : i < done) (different : i ≠ k) :
    after.place (Path.join directory (fileName i)) ≠ after.place (Path.join directory (fileName k)) := by
  have isDocument := List.getElem?_eq_getElem (Nat.lt_of_lt_of_le less within)
  obtain ⟨place, found, -⟩ := FileTree.readFile_eq_ok_iff.mp (text_of_holding holding less isDocument)
  intro same
  exact Split.apart_fileName different directory after place place found (same ▸ found) rfl

/-- The directories are made first, and the files are written into what came of that. -/
theorem frame_of_holding (grown : FileTree.Grown (Path.ancestors directory) before made) {place : Place}
    (elsewhere : ∀ i < done, after.place (Path.join directory (fileName i)) ≠ .ok place) :
    after.node? place = before.node? place ∨
      before.node? place = none ∧ after.node? place = some .directory ∧ after.Passes directory place := by
  have kept : after.node? place = made.node? place := by
    apply holding.elsewhere place
    intro file member
    obtain ⟨i, less, document, -, rfl⟩ := mem_take_files.mp member
    exact elsewhere i less
  rcases grown place with same | ⟨none, isDirectory, above, onPath, leads⟩
  · exact .inl (kept.trans same)
  · have passes := FileTree.passes_of_ancestor onPath (holding.keeps.follow leads)
    exact .inr ⟨none, kept.trans isDirectory, passes⟩

theorem unchanged_of_holding (grown : FileTree.Grown (Path.ancestors directory) before made) {path : String}
    {content : ByteArray} (read : before.readFile path = .ok content)
    (others : ∀ i < done, after.place (Path.join directory (fileName i)) ≠ after.place path) :
    after.readFile path = .ok content := by
  apply (grown.keeps.trans holding.keeps).readFile read
  intro place found isFile
  rcases frame_of_holding holding grown (found ▸ others) with same | ⟨none, -⟩
  · exact same
  · rw [none] at isFile
    cases isFile

theorem wrote_of_holding (within : done ≤ documents.length)
    (grown : FileTree.Grown (Path.ancestors directory) before made) :
    Wrote directory documents done before after where
  within := within
  texts _ _ := text_of_holding holding
  distinct _ _ less _ := place_ne_of_holding holding within less
  frame _ := frame_of_holding holding grown
  unchanged _ _ := unchanged_of_holding holding grown
  stale := by
    intro k content later read
    apply unchanged_of_holding holding grown read
    intro i less
    exact place_ne_of_holding holding within less (Nat.ne_of_lt (Nat.lt_of_lt_of_le less later))

end Holding

end Tree

/-! ## The run -/

section Run

variable {path directory : String} {before after : FileTree}

/-- Loading leaves the tree as it is.  What cannot be loaded or has no entries is unusable. -/
theorem loadConfig_cases (path : String) (t : FileTree) :
    (∃ failure, Unusable path t ∧ loadConfig (m := StateM FileTree) path t = (.error failure, t)) ∨
      ∃ text config, t.readText path = .ok text ∧ NetworkConfig.parse text = .ok config ∧
        loadConfig (m := StateM FileTree) path t = (.ok config, t) := by
  cases read : t.readText path with
  | error e =>
      refine .inl ⟨.readConfig path e, .unreadable read, ?_⟩
      simp only [loadConfig, bind, StateT.bind, FileTree.store_readText, read]
      rfl
  | ok text =>
      cases parsed : NetworkConfig.parse text with
      | ok config => exact .inr ⟨text, config, rfl, parsed, loadConfig_of_readText read parsed⟩
      | error e =>
          have unusable : Unusable path t := by
            cases value : Json.parse text with
            | error cause => exact .notJson read value
            | ok v =>
                rw [NetworkConfig.parse, value] at parsed
                exact .illTyped read value parsed
          refine .inl ⟨.badConfig path e, unusable, ?_⟩
          simp only [loadConfig, bind, StateT.bind, FileTree.store_readText, read, parsed]
          rfl

/-- The outcome of a split by the result of its writes. -/
def splitOutcome (notices : List Notice) : Except CommandFailure (List String) → Outcome
  | .error failure => failed failure notices
  | .ok paths => { output := toString paths.length ++ "\n", notices }

theorem runSplit_of_write {config : NetworkConfig} {result : Except CommandFailure (List String)}
    {written : List Notice}
    (loaded : loadConfig (m := StateM FileTree) path before = (.ok config, before))
    (ran : Split.write (m := StateM FileTree) config directory before = ((result, written), after)) :
    ∃ notices, runSplit (m := StateM FileTree) path directory before = (splitOutcome notices result, after) := by
  simp only [runSplit, bind, StateT.bind, loaded, ran]
  cases result <;> exact ⟨_, rfl⟩

theorem write_ending {config : NetworkConfig} {documents : List Json.Value}
    {result : Except CommandFailure (List String)} {written : List Notice}
    (partitioned : config.partition = .ok documents)
    (ran : Split.write (m := StateM FileTree) config directory before = ((result, written), after))
    (notices : List Notice) :
    ∃ done, Wrote directory documents done before after ∧
      Ending directory documents before after (splitOutcome notices result) done := by
  rcases Split.write_cases partitioned ran with ⟨e, refused, rfl, -⟩ | ⟨made, created, ranFiles⟩
  · have grown := FileTree.createDirectories_grown refused
    exact ⟨0, wrote_of_holding (.nil _) (Nat.zero_le _) grown, .unmade refused rfl rfl rfl⟩
  · have grown := FileTree.createDirectories_grown created
    obtain ⟨done, -, holding, ends⟩ := Split.writeEach_written Split.files_pairwise ranFiles
    refine ⟨done, ?_⟩
    cases ends with
    | all =>
        have count : ((files directory documents).map Prod.fst).length = documents.length := by
          rw [List.length_map, Split.files_length]
        rw [Split.files_length] at holding ⊢
        exact ⟨wrote_of_holding holding (Nat.le_refl _) grown,
          .complete rfl (congrArg (toString · ++ "\n") count)⟩
    | failed next refused =>
        obtain ⟨document, isDocument, rfl⟩ := Split.files_eq_some next
        obtain ⟨inBounds, -⟩ := List.getElem?_eq_some_iff.mp isDocument
        exact ⟨wrote_of_holding holding (Nat.le_of_lt inBounds) grown,
          .unwritten isDocument refused rfl rfl rfl⟩

/-- A split either cannot use the config, and fails without a change or any output; or it writes the first of the
documents of the config that was read, all of them if it succeeds, and up to the one that cannot be written if it
fails. -/
theorem runSplit_tree (path directory : String) (before : FileTree) :
    ∃ outcome after, runSplit (m := StateM FileTree) path directory before = (outcome, after) ∧
      ((Unusable path before ∧ outcome.exitCode = 1 ∧ outcome.output = "" ∧ after = before) ∨
        ∃ text config documents, before.readText path = .ok text ∧ NetworkConfig.parse text = .ok config ∧
          config.entries ≠ [] ∧ config.partition = .ok documents ∧
            documents = (config.entries.map fun entry => (config.withEntry entry).toValue) ∧
            documents.length = config.entries.length ∧
            ∃ done, Wrote directory documents done before after ∧
              Ending directory documents before after outcome done) := by
  rcases loadConfig_cases path before with
    ⟨failure, unusable, loaded⟩ | ⟨text, config, read, parsed, loaded⟩
  · have ran : runSplit (m := StateM FileTree) path directory before = (failed failure [], before) := by
      simp only [runSplit, bind, StateT.bind, loaded]
      rfl
    exact ⟨_, _, ran, .inl ⟨unusable, rfl, rfl, rfl⟩⟩
  by_cases empty : config.entries = []
  · have ran : Split.write (m := StateM FileTree) config directory before =
        ((.error (.fleet .noLiteservers), []), before) := by
      simp only [Split.write, NetworkConfig.partition_of_noEntries empty]
      rfl
    obtain ⟨notices, finished⟩ := runSplit_of_write loaded ran
    exact ⟨_, _, finished, .inl ⟨.noEntries read parsed empty, rfl, rfl, rfl⟩⟩
  · have partitioned := NetworkConfig.partition_of_entries empty
    rcases ran : Split.write (m := StateM FileTree) config directory before with ⟨⟨result, written⟩, after⟩
    obtain ⟨notices, finished⟩ := runSplit_of_write loaded ran
    exact ⟨_, _, finished, .inr ⟨text, config, _, read, parsed, empty, partitioned, rfl, List.length_map _,
      write_ending partitioned ran notices⟩⟩

end Run

end LiteserverFleet.CommandLine
