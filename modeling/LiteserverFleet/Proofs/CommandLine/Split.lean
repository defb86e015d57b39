import LiteserverFleet.CommandLine.Commands
import LiteserverFleet.Proofs.Files.Tree

/-!
# Files of a split

A split writes the documents one after the other.  The files of different indices never meet
(`files_pairwise`), so what was written stays while the later ones are written, and whatever is elsewhere stays as
it was, whether the last write succeeds or not (`writeEach_written`).
-/

set_option autoImplicit false

namespace LiteserverFleet

theorem loadConfig_of_readText {t : FileTree} {path text : String} {config : NetworkConfig}
    (read : t.readText path = .ok text) (parsed : NetworkConfig.parse text = .ok config) :
    loadConfig (m := StateM FileTree) path t = (.ok config, t) := by
  simp only [loadConfig, bind, StateT.bind, FileTree.store_readText, read, parsed]
  rfl

namespace Split

/-! ## Names of files -/

theorem fileName_plain (index : Nat) : Path.Plain (fileName index) :=
  Path.numbered_plain index (by decide)

theorem fileName_injective {i j : Nat} (same : fileName i = fileName j) : i = j :=
  Path.numbered_injective same

theorem apart_fileName {i j : Nat} (different : i ≠ j) (directory : String) :
    FileTree.Apart (Path.join directory (fileName i)) (Path.join directory (fileName j)) :=
  FileTree.apart_join (fileName_plain i) (fileName_plain j) (mt fileName_injective different) directory

theorem join_fileName_injective {directory : String} {i j : Nat}
    (same : Path.join directory (fileName i) = Path.join directory (fileName j)) : i = j :=
  fileName_injective (Path.join_injective (fileName_plain i) (fileName_plain j) same)

section Files

variable {directory : String} {documents : List Json.Value} {i : Nat}

theorem files_length : (files directory documents).length = documents.length :=
  List.length_mapIdx

theorem files_eq_some {file : String × String} (isFile : (files directory documents)[i]? = some file) :
    ∃ document, documents[i]? = some document ∧
      file = (Path.join directory (fileName i), document.prettyText) := by
  rw [files, List.getElem?_mapIdx] at isFile
  obtain ⟨document, isDocument, rfl⟩ := Option.map_eq_some_iff.mp isFile
  exact ⟨document, isDocument, rfl⟩

theorem files_getElem? {document : Json.Value} (isDocument : documents[i]? = some document) :
    (files directory documents)[i]? = some (Path.join directory (fileName i), document.prettyText) := by
  rw [files, List.getElem?_mapIdx, isDocument]
  rfl

theorem document_of_file {file : String × String} (member : file ∈ files directory documents)
    (path : file.1 = Path.join directory (fileName i)) :
    ∃ document, documents[i]? = some document ∧ file.2 = document.prettyText := by
  obtain ⟨k, inBounds, rfl⟩ := List.mem_mapIdx.mp member
  cases join_fileName_injective path
  exact ⟨_, List.getElem?_eq_getElem inBounds, rfl⟩

theorem files_pairwise :
    (files directory documents).Pairwise fun first second => FileTree.Apart first.1 second.1 := by
  rw [List.pairwise_iff_getElem]
  intro i j _ _ before
  simp only [files, List.getElem_mapIdx]
  exact apart_fileName (Nat.ne_of_lt before) directory

end Files

/-! ## Writing -/

section Writing

variable {before after : FileTree} {file : String × String} {rest files : List (String × String)}
  {result : Except CommandFailure (List String)} {notices : List Notice}

/-- The first file cannot be written and ends the run, or it is written before the rest. -/
theorem writeEach_cons
    (ran : writeEach (m := StateM FileTree) (file :: rest) before = ((result, notices), after)) :
    (∃ e, before.writeFile file.1 file.2.toUTF8 = (.error e, after) ∧
        result = .error (.writeConfig file.1 e) ∧ notices = []) ∨
      ∃ next later more, before.writeFile file.1 file.2.toUTF8 = (.ok (), next) ∧
        writeEach (m := StateM FileTree) rest next = ((later, more), after) ∧
          result = later.map (file.1 :: ·) ∧ notices = .wrote file.1 :: more := by
  obtain ⟨path, text⟩ := file
  cases wrote : before.writeFile path text.toUTF8 with
  | mk outcome next =>
      have performed : FileStore.writeFile (m := StateM FileTree) path text.toUTF8 before =
          (outcome, next) := wrote
      simp only [writeEach, bind, StateT.bind, performed] at ran
      cases outcome with
      | error e =>
          cases ran
          exact .inl ⟨e, rfl, rfl, rfl⟩
      | ok =>
          cases ran
          exact .inr ⟨_, _, _, rfl, rfl, rfl, rfl⟩

/-- A tree in which files have got their texts, while whatever is elsewhere is as it was. -/
structure Holding (files : List (String × String)) (before after : FileTree) : Prop where
  keeps : before.Keeps after
  texts : ∀ file ∈ files, after.readFile file.1 = .ok file.2.toUTF8
  elsewhere : ∀ place, (∀ file ∈ files, after.place file.1 ≠ .ok place) → after.node? place = before.node? place

theorem Holding.nil (t : FileTree) : Holding [] t t where
  keeps := .refl t
  texts := nofun
  elsewhere := fun _ _ => rfl

/-- A file that is apart from all that are written keeps its content. -/
theorem Holding.readFile (holding : Holding files before after) {path : String} {content : ByteArray}
    (apart : ∀ file ∈ files, FileTree.Apart path file.1) (read : before.readFile path = .ok content) :
    after.readFile path = .ok content := by
  apply holding.keeps.readFile read
  intro place found isFile
  exact holding.elsewhere place fun file member led => apart file member after place place found led rfl

theorem Holding.cons {next : FileTree} (wrote : before.writeFile file.1 file.2.toUTF8 = (.ok (), next))
    (apart : ∀ other ∈ rest, FileTree.Apart file.1 other.1) (holding : Holding rest next after) :
    Holding (file :: rest) before after where
  keeps := (FileTree.writeFile_keeps wrote).trans holding.keeps
  texts := by
    -- The later files are apart from this one, so it stays as it was written.
    have kept : after.readFile file.1 = .ok file.2.toUTF8 :=
      holding.readFile apart (FileTree.readFile_writeFile wrote)
    exact List.forall_mem_cons.mpr ⟨kept, holding.texts⟩
  elsewhere := by
    intro place others
    obtain ⟨notFirst, notRest⟩ := List.forall_mem_cons.mp others
    have notWritten : next.place file.1 ≠ .ok place := fun led => notFirst (holding.keeps.place_eq led)
    calc
      after.node? place = next.node? place := holding.elsewhere place notRest
      _ = before.node? place := FileTree.node?_writeFile wrote notWritten

/-- The end of a run: all files are written, or the one that is next cannot be. -/
inductive Ends (files : List (String × String)) (after : FileTree) :
    Nat → Except CommandFailure (List String) → Prop where
  | all : Ends files after files.length (.ok (files.map Prod.fst))
  | failed {done : Nat} {file : String × String} {e : FileFailure} (next : files[done]? = some file)
      (failed : after.writeFile file.1 file.2.toUTF8 = (.error e, after)) :
      Ends files after done (.error (.writeConfig file.1 e))

/-- The files in front of some point are written and hold their texts at the end, which is where this point is. -/
theorem writeEach_written
    (apart : files.Pairwise fun first second => FileTree.Apart first.1 second.1)
    (ran : writeEach (m := StateM FileTree) files before = ((result, notices), after)) :
    ∃ done, notices = (files.take done).map (fun file => Notice.wrote file.1) ∧
      Holding (files.take done) before after ∧ Ends files after done result := by
  induction files generalizing before result notices with
  | nil =>
      cases ran
      exact ⟨0, rfl, .nil _, .all⟩
  | cons file rest ih =>
      obtain ⟨apartFirst, apartRest⟩ := List.pairwise_cons.mp apart
      rcases writeEach_cons ran with ⟨e, refused, rfl, rfl⟩ | ⟨next, later, more, wrote, ranRest, rfl, rfl⟩
      · cases FileTree.writeFile_eq_error refused
        exact ⟨0, rfl, .nil _, .failed rfl refused⟩
      · obtain ⟨done, rfl, holding, ends⟩ := ih apartRest ranRest
        have apartTaken : ∀ other ∈ rest.take done, FileTree.Apart file.1 other.1 := fun other member =>
          apartFirst other (List.mem_of_mem_take member)
        refine ⟨done + 1, rfl, holding.cons wrote apartTaken, ?_⟩
        cases ends with
        | all => exact .all
        | failed isNext refused => exact .failed isNext refused

/-- A split ends for lack of its directory, or it writes the files of the partition. -/
theorem write_cases {config : NetworkConfig} {directory : String} {documents : List Json.Value}
    (partitioned : config.partition = .ok documents)
    (ran : write (m := StateM FileTree) config directory before = ((result, notices), after)) :
    (∃ e, FileStore.createDirectories (m := StateM FileTree) directory before = (.error e, after) ∧
        result = .error (.createDirectory directory e) ∧ notices = []) ∨
      ∃ made, FileStore.createDirectories (m := StateM FileTree) directory before = (.ok (), made) ∧
        writeEach (m := StateM FileTree) (Split.files directory documents) made =
          ((result, notices), after) := by
  cases created : FileStore.createDirectories (m := StateM FileTree) directory before with
  | mk outcome made =>
      simp only [write, partitioned, bind, StateT.bind, created] at ran
      cases outcome with
      | error e =>
          cases ran
          exact .inl ⟨e, rfl, rfl, rfl⟩
      | ok => exact .inr ⟨made, rfl, ran⟩

/-- The file of a document holds its text if it was written; if the split succeeds then it was, and its path is
returned at the index of the document. -/
theorem write_file {config : NetworkConfig} {directory : String} {documents : List Json.Value} {i : Nat}
    {document : Json.Value} (partitioned : config.partition = .ok documents)
    (isDocument : documents[i]? = some document)
    (ran : write (m := StateM FileTree) config directory before = ((result, notices), after)) :
    (Notice.wrote (Path.join directory (fileName i)) ∈ notices →
      after.readFile (Path.join directory (fileName i)) = .ok document.prettyText.toUTF8) ∧
    ∀ paths, result = .ok paths → paths[i]? = some (Path.join directory (fileName i)) ∧
      Notice.wrote (Path.join directory (fileName i)) ∈ notices := by
  rcases write_cases partitioned ran with ⟨e, -, rfl, rfl⟩ | ⟨made, -, ranFiles⟩
  · exact ⟨nofun, nofun⟩
  · obtain ⟨done, rfl, holding, ends⟩ := writeEach_written files_pairwise ranFiles
    have isFile : (Split.files directory documents)[i]? =
        some (Path.join directory (fileName i), document.prettyText) := files_getElem? isDocument
    constructor
    · intro wrote
      obtain ⟨file, member, notice⟩ := List.mem_map.mp wrote
      have path : file.1 = Path.join directory (fileName i) := Notice.wrote.inj notice
      obtain ⟨same, isSame, text⟩ := document_of_file (List.mem_of_mem_take member) path
      cases isDocument.symm.trans isSame
      rw [← path, ← text]
      exact holding.texts file member
    · intro paths success
      cases ends with
      | failed => cases success
      | all =>
          cases success
          refine ⟨by rw [List.getElem?_map, isFile]; rfl, ?_⟩
          rw [List.take_length]
          exact List.mem_map.mpr ⟨_, List.mem_of_getElem? isFile, rfl⟩

end Writing

end Split

end LiteserverFleet
