import LiteserverFleet.Proofs.Files.Directories

/-!
# Removing directories

A directory that is removed takes with it what lies below it, and nothing else (`node?_removeDirectories`).  Trees in
which everything lies in a directory stay so whatever is done to them (`Grounded`).  In such a tree there is nothing
below a path that does not exist (`Grounded.none_of_absent`), unless the path steps back on its way.
-/

set_option autoImplicit false

namespace LiteserverFleet

/-! ## Below a place -/

namespace Place

variable {place other : Place} {name : String}

/-- A place lies below another one.  What is given is no part of a tree, so all that a tree holds lies below it. -/
def Below (other place : Place) : Prop :=
  ¬ other.isGiven = true ∧ (place.isGiven = true ∨ place <+: other ∧ other ≠ place)

instance (other place : Place) : Decidable (other.Below place) :=
  inferInstanceAs (Decidable (_ ∧ _))

theorem isGiven_iff : place.isGiven = true ↔ (∀ name ∈ place, name = "..") ∨ place = root := by
  simp [isGiven]

theorem isGiven_of_prefix (above : place <+: other) (given : other.isGiven = true) : place.isGiven = true := by
  rw [isGiven_iff] at given ⊢
  rcases given with dots | rfl
  · exact .inl fun name member => dots name (above.subset member)
  · rcases List.prefix_cons_iff.mp above with rfl | ⟨rest, rfl, isRest⟩
    · exact .inl (fun name member => absurd member List.not_mem_nil)
    · rw [List.prefix_nil.mp isRest]
      exact .inr rfl

theorem parent_isGiven (given : place.isGiven = true) : place.parent.isGiven = true := by
  unfold parent
  split
  · exact given
  · next noRoot =>
    rw [isGiven_iff]
    have dots := (isGiven_iff.mp given).resolve_right noRoot
    refine .inl fun name member => ?_
    rcases List.mem_append.mp member with old | new
    · exact dots name old
    · exact List.mem_singleton.mp new

theorem parent_concat (notGiven : ¬ (place ++ [name]).isGiven = true) : (place ++ [name]).parent = place := by
  have noRoot : place ++ [name] ≠ root := by
    intro same
    exact notGiven (isGiven_iff.mpr (.inr same))
  rw [parent, if_neg noRoot, if_neg notGiven, List.dropLast_concat]

theorem exists_concat (notGiven : ¬ place.isGiven = true) : ∃ above name, place = above ++ [name] := by
  have nonempty : place ≠ [] := by
    rintro rfl
    exact notGiven rfl
  exact ⟨place.dropLast, place.getLast nonempty, (List.dropLast_append_getLast nonempty).symm⟩

theorem Below.ne (below : other.Below place) : other ≠ place := by
  rintro rfl
  rcases below with ⟨notGiven, given | ⟨-, different⟩⟩
  · exact notGiven given
  · exact different rfl

theorem below_of_parent (below : other.parent.Below place) : other.Below place := by
  have notGiven : ¬ other.isGiven = true := fun given => below.1 (parent_isGiven given)
  obtain ⟨above, name, rfl⟩ := exists_concat notGiven
  rw [parent_concat notGiven] at below
  refine ⟨notGiven, below.2.imp_right ?_⟩
  rintro ⟨isPrefix, -⟩
  refine ⟨isPrefix.trans (List.prefix_append above [name]), ?_⟩
  rintro rfl
  have shorter := isPrefix.length_le
  rw [List.length_append, List.length_singleton] at shorter
  exact absurd shorter (Nat.not_succ_le_self _)

theorem below_parent (notGiven : ¬ other.isGiven = true) : other.Below other.parent := by
  obtain ⟨above, name, rfl⟩ := exists_concat notGiven
  rw [parent_concat notGiven]
  refine ⟨notGiven, .inr ⟨List.prefix_append above [name], ?_⟩⟩
  simp

end Place

namespace FileTree

variable {t after : FileTree} {place other start : Place} {path : String} {names : List String}

/-! ## Removing -/

theorem node?_clearBelow (t : FileTree) (place other : Place) :
    (t.clearBelow place).node? other = if other.Below place then none else t.node? other := by
  unfold node? clearBelow
  by_cases given : other.isGiven = true
  · have notBelow : ¬ other.Below place := fun below => below.1 given
    rw [if_neg notBelow, if_pos given, if_pos given]
  · rw [if_neg given, if_neg given]
    split
    · next placeGiven =>
      rw [if_pos ⟨given, .inl placeGiven⟩]
      rfl
    · next notGiven =>
      have below : other.Below place ↔ place <+: other ∧ other ≠ place := by
        simp [Place.Below, given, notGiven]
      have kept : (!(place.isPrefixOf other && other ≠ place)) = true ↔ ¬ other.Below place := by
        rw [below, ← List.isPrefixOf_iff_prefix]
        cases place.isPrefixOf other <;> simp
      rw [lookup_filter fun found => !(place.isPrefixOf found && found ≠ place)]
      by_cases isBelow : other.Below place
      · rw [if_pos isBelow, if_neg (mt kept.mp (not_not_intro isBelow))]
      · rw [if_neg isBelow, if_pos (kept.mpr isBelow)]

theorem node?_erase (t : FileTree) (place other : Place) :
    (t.erase place).node? other =
      if other.isGiven then some .directory else if other = place then none else t.node? other := by
  unfold node? erase
  by_cases given : other.isGiven = true
  · rw [if_pos given, if_pos given]
  · rw [if_neg given, if_neg given, if_neg given, lookup_filter (· ≠ place)]
    by_cases same : other = place
    · rw [if_pos same, if_neg (by simpa using same)]
    · rw [if_neg same, if_pos (by simpa using same)]

theorem node?_erase_of_ne (different : other ≠ place) : (t.erase place).node? other = t.node? other := by
  rw [node?_erase, if_neg different]
  split
  · next given => rw [node?, if_pos given]
  · rfl

theorem removeDirectories_cases {result : Except FileFailure Unit}
    (removed : t.removeDirectories path = (result, after)) :
    (∃ place, t.place path = .ok place ∧ t.node? place = some .directory ∧
        (after = t.clearBelow place ∨ after = (t.clearBelow place).erase place)) ∨
      (∃ e, result = .error e) ∧ after = t := by
  unfold removeDirectories at removed
  split at removed
  · cases removed
    exact .inr ⟨⟨_, rfl⟩, rfl⟩
  · next place led =>
    split at removed
    · cases removed
      exact .inr ⟨⟨_, rfl⟩, rfl⟩
    · cases removed
      exact .inr ⟨⟨_, rfl⟩, rfl⟩
    · next directory =>
      refine .inl ⟨place, led, directory, ?_⟩
      dsimp only at removed
      split at removed
      · cases removed
        exact .inl rfl
      · cases removed
        exact .inl rfl
      · split at removed
        · cases removed
          exact .inl rfl
        · cases removed
          exact .inl rfl
        · cases removed
          exact .inr rfl

/-- What lies below a directory goes with it, and nothing else does, but for the directory itself. -/
theorem node?_removeDirectories (removed : t.removeDirectories path = (.ok (), after)) :
    ∃ place, t.place path = .ok place ∧ t.node? place = some .directory ∧
      ∀ other, other ≠ place → after.node? other = if other.Below place then none else t.node? other := by
  rcases removeDirectories_cases removed with ⟨place, led, directory, rfl | rfl⟩ | ⟨⟨e, failed⟩, -⟩
  · exact ⟨place, led, directory, fun other _ => node?_clearBelow t place other⟩
  · refine ⟨place, led, directory, ?_⟩
    intro other different
    rw [node?_erase_of_ne different, node?_clearBelow]
  · cases failed

/-! ## Trees that hang together -/

/-- Whatever a tree holds lies in a directory. -/
def Grounded (t : FileTree) : Prop :=
  ∀ place, t.node? place ≠ none → t.node? place.parent = some .directory

theorem node?_of_given (t : FileTree) (given : place.isGiven = true) : t.node? place = some .directory :=
  if_pos given

theorem grounded_empty : Grounded {} := by
  intro place found
  by_cases given : place.isGiven = true
  · exact node?_of_given _ (Place.parent_isGiven given)
  · rw [node?, if_neg given] at found
    exact absurd rfl found

theorem Grounded.put (grounded : t.Grounded) (noDirectory : t.node? place ≠ some .directory)
    (inDirectory : t.node? place.parent = some .directory) (node : FileNode) : (t.put place node).Grounded := by
  intro other found
  have keeps := keeps_put noDirectory node
  by_cases same : other = place
  · exact same ▸ keeps _ inDirectory
  · rw [node?_put_of_ne same] at found
    exact keeps _ (grounded other found)

theorem Grounded.clearBelow (grounded : t.Grounded) (place : Place) : (t.clearBelow place).Grounded := by
  intro other found
  rw [node?_clearBelow] at found ⊢
  by_cases below : other.Below place
  · rw [if_pos below] at found
    exact absurd rfl found
  · rw [if_neg below] at found
    rw [if_neg (mt Place.below_of_parent below)]
    exact grounded other found

theorem Grounded.erase (grounded : t.Grounded) (bare : ∀ other, other.Below place → t.node? other = none) :
    (t.erase place).Grounded := by
  intro other found
  by_cases given : other.isGiven = true
  · exact node?_of_given _ (Place.parent_isGiven given)
  · have different : other ≠ place := by
      rintro rfl
      rw [node?_erase, if_neg given, if_pos rfl] at found
      exact found rfl
    rw [node?_erase_of_ne different] at found
    have inside : other.parent ≠ place := by
      rintro rfl
      exact found (bare other (Place.below_parent given))
    rw [node?_erase_of_ne inside]
    exact grounded other found

theorem Grounded.removeDirectories (grounded : t.Grounded) {result : Except FileFailure Unit}
    (removed : t.removeDirectories path = (result, after)) : after.Grounded := by
  rcases removeDirectories_cases removed with ⟨place, -, -, rfl | rfl⟩ | ⟨-, rfl⟩
  · exact grounded.clearBelow place
  · refine (grounded.clearBelow place).erase ?_
    intro other below
    rw [node?_clearBelow, if_pos below]
  · exact grounded

/-- Names lead to a directory, or to a place in one. -/
theorem Grounded.walk (grounded : t.Grounded)
    (inDirectory : t.node? start = some .directory ∨ t.node? start.parent = some .directory)
    (walked : t.walk start names = .ok place) :
    t.node? place = some .directory ∨ t.node? place.parent = some .directory := by
  induction names generalizing start with
  | nil =>
      cases walked
      exact inDirectory
  | cons name names ih =>
      obtain ⟨directory, next, enters, walked⟩ := walk_cons_eq_ok_iff.mp walked
      refine ih ?_ walked
      cases enters with
      | here => exact .inl directory
      | above => exact .inl (grounded start (by rw [directory]; nofun))
      | below =>
          by_cases given : (start ++ [name]).isGiven = true
          · exact .inl (node?_of_given t given)
          · rw [Place.parent_concat given]
            exact .inr directory

theorem Grounded.follow (grounded : t.Grounded) (led : t.follow path names = .ok place)
    (noDirectory : t.node? place ≠ some .directory) : t.node? place.parent = some .directory := by
  obtain ⟨-, walked⟩ := follow_eq_ok_iff.mp led
  refine (grounded.walk (.inl (node?_of_given t ?_)) walked).resolve_left noDirectory
  split <;> rfl

theorem Grounded.writeFile (grounded : t.Grounded) {content : ByteArray} {result : Except FileFailure Unit}
    (wrote : t.writeFile path content = (result, after)) : after.Grounded := by
  cases result with
  | error e => exact writeFile_eq_error wrote ▸ grounded
  | ok =>
      obtain ⟨place, led, noDirectory, rfl⟩ := writeFile_eq_ok wrote
      exact grounded.put noDirectory (grounded.follow led noDirectory) _

theorem Grounded.makeDirectory (grounded : t.Grounded) {result : Except FileFailure Unit}
    (made : t.makeDirectory path = (result, after)) : after.Grounded := by
  rcases makeDirectory_cases made with ⟨place, led, none, -, rfl⟩ | ⟨-, rfl⟩
  · have noDirectory := noDirectory_of_none none
    exact grounded.put noDirectory (grounded.follow led noDirectory) _
  · exact grounded

/-! ## Below what does not exist -/

/-- Below a place where nothing is there is nothing. -/
theorem Grounded.none_of_prefix (grounded : t.Grounded) (none : t.node? place = none) (below : place <+: other) :
    t.node? other = Option.none := by
  obtain ⟨rest, rfl⟩ := below
  induction rest generalizing place with
  | nil => rwa [List.append_nil]
  | cons name rest ih =>
      have next : t.node? (place ++ [name]) = Option.none := by
        by_contra found
        have notGiven : ¬ (place ++ [name]).isGiven = true := by
          intro given
          have placeGiven := Place.isGiven_of_prefix (List.prefix_append place [name]) given
          cases none.symm.trans (node?_of_given t placeGiven)
        have directory := grounded _ found
        rw [Place.parent_concat notGiven, none] at directory
        cases directory
      rw [List.append_cons]
      exact ih next

/-- Names that do not step back lead further down. -/
theorem walk_down (noDots : ".." ∉ names) (walked : t.walk start names = .ok place) : start <+: place := by
  induction names generalizing start with
  | nil =>
      cases walked
      exact List.prefix_rfl
  | cons name names ih =>
      obtain ⟨noDotsHere, noDotsBelow⟩ := List.ne_and_not_mem_of_not_mem_cons noDots
      obtain ⟨-, next, enters, walked⟩ := walk_cons_eq_ok_iff.mp walked
      have down := ih noDotsBelow walked
      cases enters with
      | here => exact down
      | above => exact absurd rfl noDotsHere
      | below => exact (List.prefix_append start [name]).trans down

/-- Where names get lost, something is missing on the way to the place to which they lead in another tree. -/
theorem walk_lost (noDots : ".." ∉ names) (lost : t.walk start names = .error .notFound)
    (walked : after.walk start names = .ok place) : ∃ above, above <+: place ∧ t.node? above = none := by
  induction names generalizing start with
  | nil => cases lost
  | cons name names ih =>
      have down := walk_down noDots walked
      obtain ⟨noDotsHere, noDotsBelow⟩ := List.ne_and_not_mem_of_not_mem_cons noDots
      obtain ⟨-, next, enters, walked⟩ := walk_cons_eq_ok_iff.mp walked
      rw [walk] at lost
      cases found : t.node? start with
      | none => exact ⟨start, down, found⟩
      | some node =>
          cases node with
          | file content =>
              rw [found] at lost
              cases lost
          | directory =>
              simp only [found] at lost
              cases enters with
              | here => exact ih noDotsBelow lost walked
              | above => exact absurd rfl noDotsHere
              | below noDot _ fits =>
                  rw [if_neg noDot, if_neg (Ne.symm noDotsHere), if_neg fits] at lost
                  exact ih noDotsBelow lost walked

theorem notMem_steps (noDots : ".." ∉ Path.names path) : ".." ∉ Path.steps path := by
  unfold Path.steps
  split
  · simpa using noDots
  · exact noDots

theorem missing_of_absent (noDots : ".." ∉ Path.names path) (absent : t.pathExists path = .ok false)
    (led : after.place path = .ok place) : ∃ above, above <+: place ∧ t.node? above = none := by
  unfold pathExists at absent
  split at absent
  · next found ledBefore =>
    obtain rfl := place_unique ledBefore led
    exact ⟨found, List.prefix_rfl, by simpa using absent⟩
  · next lost =>
    obtain ⟨⟨noZero, nonempty, short⟩, walked⟩ := follow_eq_ok_iff.mp led
    rw [FileTree.place, follow, if_neg noZero, if_neg nonempty, if_neg short] at lost
    exact walk_lost (notMem_steps noDots) lost walked
  · cases absent

/-- Below a path that does not exist is nothing. -/
theorem Grounded.none_of_absent (grounded : t.Grounded) (noDots : ".." ∉ Path.names path)
    (absent : t.pathExists path = .ok false) (led : after.place path = .ok place) (below : other.Below place) :
    t.node? other = none := by
  obtain ⟨above, isAbove, none⟩ := missing_of_absent noDots absent led
  have notGiven : ¬ place.isGiven = true := by
    intro given
    cases none.symm.trans (node?_of_given t (Place.isGiven_of_prefix isAbove given))
  obtain ⟨isPrefix, -⟩ := below.2.resolve_left notGiven
  exact grounded.none_of_prefix none (isAbove.trans isPrefix)

/-- A path that does not step back passes nothing below the place to which it leads. -/
theorem not_passes_below (noDots : ".." ∉ Path.names path) (led : t.place path = .ok place)
    (below : other.Below place) : ¬ t.Passes path other := by
  rintro ⟨front, ⟨rest, areNames⟩, reached⟩
  have walked := walk_names_of_place led
  rw [← areNames] at walked noDots
  obtain ⟨middle, reachedToo, walkedOn⟩ := walk_append.mp walked
  obtain rfl := walk_unique reachedToo reached
  have down := walk_down (mt (List.mem_append_right front) noDots) walkedOn
  rcases below with ⟨notGiven, given | ⟨up, different⟩⟩
  · exact notGiven (Place.isGiven_of_prefix down given)
  · exact different (down.eq_of_length_le up.length_le)

/-- A plain name in a directory leads below it. -/
theorem below_of_join {name directory : String} (plain : Path.Plain name) (led : t.place directory = .ok place)
    (ledBelow : t.place (Path.join directory name) = .ok other) : other.Below place := by
  obtain ⟨⟨-, nonempty, -⟩, -⟩ := follow_eq_ok_iff.mp led
  obtain ⟨-, walked⟩ := follow_eq_ok_iff.mp ledBelow
  rw [Path.isAbsolute_join nonempty, Path.steps_join plain] at walked
  obtain ⟨middle, reached, walkedOn⟩ := walk_append.mp walked
  obtain rfl := walk_unique reached (walk_names_of_place led)
  obtain ⟨-, next, enters, same⟩ := walk_cons_eq_ok_iff.mp walkedOn
  cases same
  cases enters with
  | here => exact absurd rfl plain.noDot
  | above => exact absurd rfl plain.noDots
  | below =>
      have notGiven : ¬ (middle ++ [name]).isGiven = true := by
        intro given
        rcases Place.isGiven_iff.mp given with dots | same
        · exact plain.noDots (dots name (List.mem_append_right middle List.mem_cons_self))
        · have last := congrArg List.getLast? same
          rw [List.getLast?_concat] at last
          cases last
          exact plain.noSlash (by decide)
      have below := Place.below_parent notGiven
      rwa [Place.parent_concat notGiven] at below

end FileTree

end LiteserverFleet
