import LiteserverFleet.Files.Store
import LiteserverFleet.Proofs.Files.Path

/-!
# Files in a tree

A file that is written can be read (`readFile_writeFile`), and whatever is elsewhere stays as it is
(`node?_writeFile`).  No directory goes away, so every path that could be followed still leads to the same place
(`Keeps.place_eq`).  Paths of different plain names are apart in every tree (`apart_join`).
-/

set_option autoImplicit false

namespace LiteserverFleet.FileTree

variable {t after : FileTree} {place above other : Place} {path name : String} {names : List String}
  {content bytes : ByteArray}

/-! ## Following names -/

/-- Where a name leads from a directory. -/
inductive Enters (start : Place) : String → Place → Prop where
  | here : Enters start "." start
  | above : Enters start ".." start.parent
  | below {name : String} (noDot : name ≠ ".") (noDots : name ≠ "..")
      (fits : ¬ Path.isTooLong name = true) : Enters start name (start ++ [name])

theorem Enters.eq {start : Place} (enters : Enters start name place) :
    place = if name = "." then start else if name = ".." then start.parent else start ++ [name] := by
  cases enters with
  | here => rfl
  | above => rfl
  | below noDot noDots => rw [if_neg noDot, if_neg noDots]

theorem walk_cons_eq_ok_iff {start : Place} :
    t.walk start (name :: names) = .ok place ↔
      t.node? start = some .directory ∧ ∃ next, Enters start name next ∧ t.walk next names = .ok place := by
  rw [walk]
  cases t.node? start with
  | none => simp
  | some node =>
      cases node with
      | file content => simp
      | directory =>
          simp only [true_and]
          constructor
          · intro walked
            split at walked
            · next dot =>
              subst dot
              exact ⟨_, .here, walked⟩
            · next noDot =>
              split at walked
              · next dots =>
                subst dots
                exact ⟨_, .above, walked⟩
              · next noDots =>
                split at walked
                · cases walked
                · next fits => exact ⟨_, .below noDot noDots fits, walked⟩
          · rintro ⟨next, enters, walked⟩
            cases enters with
            | here => exact walked
            | above => exact walked
            | below noDot noDots fits => rwa [if_neg noDot, if_neg noDots, if_neg fits]

theorem walk_append {start : Place} {front rest : List String} :
    t.walk start (front ++ rest) = .ok place ↔
      ∃ middle, t.walk start front = .ok middle ∧ t.walk middle rest = .ok place := by
  induction front generalizing start with
  | nil =>
      constructor
      · intro walked
        exact ⟨start, rfl, walked⟩
      · rintro ⟨middle, same, walked⟩
        cases same
        exact walked
  | cons name front ih =>
      simp only [List.cons_append, walk_cons_eq_ok_iff, ih]
      constructor
      · rintro ⟨directory, next, enters, middle, walked, walkedOn⟩
        exact ⟨middle, ⟨directory, next, enters, walked⟩, walkedOn⟩
      · rintro ⟨middle, ⟨directory, next, enters, walked⟩, walkedOn⟩
        exact ⟨directory, next, enters, middle, walked, walkedOn⟩

/-- Where names lead, if they lead anywhere, is the same in all trees. -/
theorem walk_unique {start : Place} (walked : t.walk start names = .ok place)
    (walkedToo : after.walk start names = .ok other) : place = other := by
  induction names generalizing start with
  | nil =>
      cases walked
      cases walkedToo
      rfl
  | cons name names ih =>
      obtain ⟨-, next, enters, walked⟩ := walk_cons_eq_ok_iff.mp walked
      obtain ⟨-, nextToo, entersToo, walkedToo⟩ := walk_cons_eq_ok_iff.mp walkedToo
      obtain rfl := enters.eq.trans entersToo.eq.symm
      exact ih walked walkedToo

theorem follow_eq_ok_iff :
    t.follow path names = .ok place ↔
      (¬ path.toList.contains '\x00' = true ∧ path ≠ "" ∧ ¬ Path.longestPath < path.utf8ByteSize) ∧
        t.walk (if Path.isAbsolute path then .root else []) names = .ok place := by
  rw [follow]
  split
  · next zero => exact ⟨nofun, fun both => absurd zero both.1.1⟩
  · next noZero =>
    split
    · next empty => exact ⟨nofun, fun both => absurd empty both.1.2.1⟩
    · next nonempty =>
      split
      · next long => exact ⟨nofun, fun both => absurd long both.1.2.2⟩
      · next short => exact ⟨fun walked => ⟨⟨noZero, nonempty, short⟩, walked⟩, And.right⟩

theorem place_unique (led : t.place path = .ok place) (ledToo : after.place path = .ok other) : place = other :=
  walk_unique (follow_eq_ok_iff.mp led).2 (follow_eq_ok_iff.mp ledToo).2

/-- A slash at the end does not lead any further. -/
theorem walk_names_of_place (led : t.place path = .ok place) :
    t.walk (if Path.isAbsolute path then .root else []) (Path.names path) = .ok place := by
  obtain ⟨-, walked⟩ := follow_eq_ok_iff.mp led
  cases slash : Path.endsWithSlash path with
  | false => rwa [Path.steps, slash] at walked
  | true =>
      rw [Path.steps, slash, if_pos rfl] at walked
      obtain ⟨middle, walked, once⟩ := walk_append.mp walked
      obtain ⟨-, next, enters, same⟩ := walk_cons_eq_ok_iff.mp once
      cases same
      rwa [enters.eq]

theorem isDirectory_iff :
    t.isDirectory path = true ↔ ∃ place, t.place path = .ok place ∧ t.node? place = some .directory := by
  unfold isDirectory
  cases t.place path with
  | error e => simp
  | ok place =>
      simp only [Except.ok.injEq, exists_eq_left']
      split
      · next directory => simp [directory]
      · next other => simpa using other

/-- Every directory of a tree is one in another tree. -/
def Keeps (t after : FileTree) : Prop :=
  ∀ place, t.node? place = some .directory → after.node? place = some .directory

theorem Keeps.refl (t : FileTree) : t.Keeps t :=
  fun _ => id

theorem Keeps.trans {next : FileTree} (first : t.Keeps next) (second : next.Keeps after) : t.Keeps after :=
  fun place directory => second place (first place directory)

/-- Names that could be followed lead to the same place as long as no directory goes away. -/
theorem Keeps.walk (keeps : t.Keeps after) {start : Place} (walked : t.walk start names = .ok place) :
    after.walk start names = .ok place := by
  induction names generalizing start with
  | nil => exact walked
  | cons name names ih =>
      obtain ⟨directory, next, enters, walked⟩ := walk_cons_eq_ok_iff.mp walked
      apply walk_cons_eq_ok_iff.mpr
      exact ⟨keeps start directory, next, enters, ih walked⟩

theorem Keeps.follow (keeps : t.Keeps after) (found : t.follow path names = .ok place) :
    after.follow path names = .ok place := by
  obtain ⟨usable, walked⟩ := follow_eq_ok_iff.mp found
  exact follow_eq_ok_iff.mpr ⟨usable, keeps.walk walked⟩

theorem Keeps.place_eq (keeps : t.Keeps after) (found : t.place path = .ok place) :
    after.place path = .ok place :=
  keeps.follow found

theorem Keeps.isDirectory (keeps : t.Keeps after) (directory : t.isDirectory path = true) :
    after.isDirectory path = true := by
  obtain ⟨place, led, isPlace⟩ := isDirectory_iff.mp directory
  exact isDirectory_iff.mpr ⟨place, keeps.place_eq led, keeps place isPlace⟩

/-- A slash behind the names of a directory leads to the directory itself. -/
theorem isDirectory_of_follow (led : t.follow path (Path.names path) = .ok place)
    (directory : t.node? place = some .directory) : t.isDirectory path = true := by
  obtain ⟨usable, walked⟩ := follow_eq_ok_iff.mp led
  refine isDirectory_iff.mpr ⟨place, follow_eq_ok_iff.mpr ⟨usable, ?_⟩, directory⟩
  cases slash : Path.endsWithSlash path with
  | false =>
      rw [Path.steps, slash]
      exact walked
  | true =>
      rw [Path.steps, slash]
      have once : t.walk place ["."] = .ok place := walk_cons_eq_ok_iff.mpr ⟨directory, place, .here, rfl⟩
      exact walk_append.mpr ⟨place, walked, once⟩

/-! ## Putting a node -/

theorem lookup_filter (keep : Place → Bool) (nodes : List (Place × FileNode)) (other : Place) :
    (nodes.filter fun entry => keep entry.1).lookup other = if keep other then nodes.lookup other else none := by
  induction nodes with
  | nil => simp
  | cons entry rest ih =>
      obtain ⟨found, node⟩ := entry
      by_cases same : other = found
      · subst same
        cases kept : keep other with
        | true => simp [kept]
        | false => simpa [kept] using ih
      · have passed : (other == found) = false := by simpa using same
        cases kept : keep found with
        | true => simp [kept, List.lookup_cons, passed, ih]
        | false => simp [kept, List.lookup_cons, passed, ih]

theorem node?_put (t : FileTree) (place other : Place) (node : FileNode) :
    (t.put place node).node? other =
      if other.isGiven then some .directory else if other = place then some node else t.node? other := by
  unfold node? put
  split
  · rfl
  · split
    · next same =>
      rw [same]
      exact List.lookup_cons_self
    · next apart =>
      have passed : (other == place) = false := by simpa using apart
      rw [List.lookup_cons, passed]
      exact (lookup_filter (· ≠ place) _ other).trans (if_pos (by simpa using apart))

theorem node?_put_of_ne (different : other ≠ place) (node : FileNode) :
    (t.put place node).node? other = t.node? other := by
  rw [node?_put, if_neg different]
  split
  · next given => rw [node?, if_pos given]
  · rfl

theorem noDirectory_of_none (none : t.node? place = none) : t.node? place ≠ some .directory := by
  rw [none]
  nofun

/-- Only what is no directory can be replaced. -/
theorem node?_put_self (noDirectory : t.node? place ≠ some .directory) (node : FileNode) :
    (t.put place node).node? place = some node := by
  have notGiven : ¬ place.isGiven = true := fun given => noDirectory (if_pos given)
  rw [node?_put, if_neg notGiven, if_pos rfl]

theorem keeps_put (noDirectory : t.node? place ≠ some .directory) (node : FileNode) :
    t.Keeps (t.put place node) := by
  intro other directory
  have different : other ≠ place := fun same => noDirectory (same ▸ directory)
  rw [node?_put_of_ne different, directory]

/-! ## Reading and writing -/

theorem writeFile_eq_ok (wrote : t.writeFile path content = (.ok (), after)) :
    ∃ place, t.place path = .ok place ∧ t.node? place ≠ some .directory ∧
      after = t.put place (.file content) := by
  unfold writeFile at wrote
  split at wrote
  · cases wrote
  · next place found =>
    split at wrote
    · cases wrote
    · next noDirectory =>
      cases wrote
      exact ⟨place, found, noDirectory, rfl⟩

theorem writeFile_eq_error {e : FileFailure} (failed : t.writeFile path content = (.error e, after)) :
    after = t := by
  unfold writeFile at failed
  split at failed
  · cases failed
    rfl
  · split at failed
    · cases failed
      rfl
    · cases failed

theorem readFile_eq_ok_iff :
    t.readFile path = .ok bytes ↔
      ∃ place, t.place path = .ok place ∧ t.node? place = some (.file bytes) := by
  unfold readFile
  cases found : t.place path with
  | error e => simp [bind, Except.bind]
  | ok place =>
      simp only [bind, Except.bind, Except.ok.injEq, exists_eq_left']
      split
      · next content isFile => simp [isFile, pure, Except.pure]
      · next directory => simp [directory]
      · next missing => simp [missing]

/-- What a path leads to can be read as before, if no directory went away and it is still the same. -/
theorem Keeps.readFile (keeps : t.Keeps after) (read : t.readFile path = .ok bytes)
    (same : ∀ place, after.place path = .ok place → t.node? place = some (.file bytes) →
      after.node? place = t.node? place) : after.readFile path = .ok bytes := by
  obtain ⟨place, found, isFile⟩ := readFile_eq_ok_iff.mp read
  have stillFound : after.place path = .ok place := keeps.place_eq found
  exact readFile_eq_ok_iff.mpr ⟨place, stillFound, (same place stillFound isFile).trans isFile⟩

/-- A file that is written can be read. -/
theorem readFile_writeFile (wrote : t.writeFile path content = (.ok (), after)) :
    after.readFile path = .ok content := by
  obtain ⟨place, found, noDirectory, rfl⟩ := writeFile_eq_ok wrote
  exact readFile_eq_ok_iff.mpr ⟨place, (keeps_put noDirectory _).place_eq found, node?_put_self noDirectory _⟩

theorem writeFile_keeps (wrote : t.writeFile path content = (.ok (), after)) : t.Keeps after := by
  obtain ⟨place, found, noDirectory, rfl⟩ := writeFile_eq_ok wrote
  exact keeps_put noDirectory _

/-- Nothing but the file that is written changes. -/
theorem node?_writeFile (wrote : t.writeFile path content = (.ok (), after))
    (elsewhere : after.place path ≠ .ok other) : after.node? other = t.node? other := by
  obtain ⟨place, found, noDirectory, rfl⟩ := writeFile_eq_ok wrote
  have different : other ≠ place := by
    rintro rfl
    exact elsewhere ((keeps_put noDirectory _).place_eq found)
  exact node?_put_of_ne different _

/-- The text at a path, as it is read. -/
def readText (t : FileTree) (path : String) : Except FileFailure String := do
  let bytes ← t.readFile path
  match String.fromUTF8? bytes with
  | some text => pure text
  | none => .error .notText

theorem store_readText (t : FileTree) (path : String) :
    FileStore.readText (m := StateM FileTree) path t = (t.readText path, t) := by
  have read : FileStore.readFile (m := StateM FileTree) path t = (t.readFile path, t) := rfl
  simp only [FileStore.readText, readText, bind, StateT.bind, read]
  cases t.readFile path with
  | error e => rfl
  | ok bytes => cases decoded : String.fromUTF8? bytes <;> simp only [decoded, Except.bind] <;> rfl

theorem fromUTF8?_eq_some_iff {text : String} : String.fromUTF8? bytes = some text ↔ bytes = text.toUTF8 := by
  unfold String.fromUTF8?
  constructor
  · intro decoded
    split at decoded
    · cases decoded
      rfl
    · cases decoded
  · rintro rfl
    exact dif_pos text.isValidUTF8

theorem readText_eq_ok_iff {text : String} :
    t.readText path = .ok text ↔ t.readFile path = .ok text.toUTF8 := by
  unfold readText
  cases t.readFile path with
  | error e => simp [bind, Except.bind]
  | ok bytes =>
      simp only [bind, Except.bind, Except.ok.injEq, ← fromUTF8?_eq_some_iff]
      split
      · next found => simp [found, pure, Except.pure]
      · next unreadable => simp [unreadable]

/-- Paths that never lead to the same place. -/
def Apart (first second : String) : Prop :=
  ∀ (t : FileTree) (place other : Place), t.place first = .ok place → t.place second = .ok other →
    place ≠ other

/-! ## Names in a directory -/

/-- A path whose last name is plain leads to a place that ends in this name. -/
theorem walk_plain (plain : Path.Plain name) {start : Place}
    (walked : t.walk start (names ++ [name]) = .ok place) : place.getLast? = some name := by
  induction names generalizing start with
  | nil =>
      obtain ⟨-, next, enters, walked⟩ := walk_cons_eq_ok_iff.mp walked
      cases enters with
      | here => exact absurd rfl plain.noDot
      | above => exact absurd rfl plain.noDots
      | below =>
          cases walked
          exact List.getLast?_concat
  | cons first names ih =>
      obtain ⟨-, next, -, walked⟩ := walk_cons_eq_ok_iff.mp walked
      exact ih walked

theorem place_join (plain : Path.Plain name) {directory : String}
    (found : t.place (Path.join directory name) = .ok place) : place.getLast? = some name := by
  obtain ⟨-, walked⟩ := follow_eq_ok_iff.mp found
  rw [Path.steps_join plain] at walked
  exact walk_plain plain walked

theorem apart_join {first second : String} (plain : Path.Plain first) (plainToo : Path.Plain second)
    (different : first ≠ second) (directory : String) :
    Apart (Path.join directory first) (Path.join directory second) := by
  intro t place other found foundOther same
  have last := place_join plain found
  rw [same, place_join plainToo foundOther] at last
  exact different (Option.some.inj last).symm

end LiteserverFleet.FileTree
