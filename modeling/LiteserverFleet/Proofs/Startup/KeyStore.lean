import LiteserverFleet.Proofs.Files.Removal
import LiteserverFleet.Startup

/-!
# The key store behind a reset

A reset that succeeds leaves the root of the key store as a directory with nothing below it, and everything else as it
was (`resetKeyStore_emptied`), so no worker finds a key store of its own (`Emptied.noKeyStore`).  Only a path that
steps back, such as `a/../keys`, makes an exception: the directories that it passes are made for it, and if one of
them was missing, what is at its end was never found and is kept.
-/

set_option autoImplicit false

namespace LiteserverFleet.Startup

variable {root : String} {before after : FileTree} {place other : Place} {notices : List Notice}

/-- The root of a key store is a directory, and what lay below it is gone.  The only new things are directories that
the path of the root passes. -/
structure Emptied (root : String) (before after : FileTree) (place : Place) : Prop where
  led : after.place root = .ok place
  directory : after.node? place = some .directory
  below : ∀ other, other.Below place → after.node? other = none ∨
    after.node? other = some .directory ∧ after.Passes root other
  frame : ∀ other, other ≠ place → ¬ other.Below place → after.node? other = before.node? other ∨
    before.node? other = none ∧ after.node? other = some .directory ∧ after.Passes root other

/-! ## The steps of a reset -/

/-- The last step of a reset reports nothing but its own failure. -/
theorem createDirectories_of_reported {t : FileTree} {reported : List Notice}
    (ran : (FileStore.createDirectories (m := StateM FileTree) root >>= fun created =>
      pure (created.mapError FleetError.io, reported)) t = ((.ok (), notices), after)) :
    FileStore.createDirectories (m := StateM FileTree) root t = (.ok (), after) := by
  rcases made : FileStore.createDirectories (m := StateM FileTree) root t with ⟨outcome, next⟩
  simp only [bind, StateT.bind, made] at ran
  cases outcome with
  | error e => cases ran
  | ok =>
      cases ran
      rfl

/-- A root that is there is removed before it is made; otherwise it does not exist, and is only made. -/
theorem resetKeyStore_cases
    (ran : resetKeyStore (m := StateM FileTree) root before = ((.ok (), notices), after)) :
    (∃ removed, before.removeDirectories root = (.ok (), removed) ∧
        FileStore.createDirectories (m := StateM FileTree) root removed = (.ok (), after)) ∨
      before.pathExists root = .ok false ∧
        FileStore.createDirectories (m := StateM FileTree) root before = (.ok (), after) := by
  have asked : FileStore.pathExists (m := StateM FileTree) root before = (before.pathExists root, before) := rfl
  simp only [resetKeyStore, bind, StateT.bind, asked] at ran
  cases found : before.pathExists root with
  | error e =>
      rw [found] at ran
      cases ran
  | ok there =>
      simp only [found] at ran
      cases there with
      | false =>
          rw [if_neg Bool.false_ne_true] at ran
          exact .inr ⟨rfl, createDirectories_of_reported ran⟩
      | true =>
          rcases gone : before.removeDirectories root with ⟨outcome, removed⟩
          have performed : FileStore.removeDirectories (m := StateM FileTree) root before = (outcome, removed) := gone
          simp only [if_true, StateT.bind, performed] at ran
          cases outcome with
          | error e => cases ran
          | ok => exact .inl ⟨removed, rfl, createDirectories_of_reported ran⟩

/-! ## What a reset leaves -/

theorem workerKeyStore_eq (root : String) (index : Nat) :
    workerKeyStore root index = Path.join root (Path.numbered index "") := by
  rw [workerKeyStore, Path.numbered, String.append_empty]

theorem emptied_of_created {t : FileTree} (nonempty : root ≠ "")
    (created : FileStore.createDirectories (m := StateM FileTree) root t = (.ok (), after))
    (others : ∀ place, after.place root = .ok place → ∀ other, other ≠ place →
      t.node? other = if other.Below place then none else before.node? other) :
    ∃ place, Emptied root before after place := by
  have grown := FileTree.createDirectories_grown created
  obtain ⟨place, led, directory⟩ :=
    FileTree.isDirectory_iff.mp (FileTree.createDirectories_isDirectory nonempty created)
  refine ⟨place, led, directory, ?_, ?_⟩
  · intro other below
    have none := others place led other below.ne
    rw [if_pos below] at none
    rw [← none]
    exact (grown.node?_cases other).imp_right And.right
  · intro other different notBelow
    have same := others place led other different
    rw [if_neg notBelow] at same
    rw [← same]
    exact grown.node?_cases other

/-- A reset that succeeds leaves nothing of what lay below the root, as long as it finds the root.  Nothing is made for
the empty path, which is left out here. -/
theorem resetKeyStore_emptied (nonempty : root ≠ "")
    (found : before.pathExists root = .ok true ∨ ".." ∉ Path.names root ∧ before.Grounded)
    (ran : resetKeyStore (m := StateM FileTree) root before = ((.ok (), notices), after)) :
    ∃ place, Emptied root before after place := by
  rcases resetKeyStore_cases ran with ⟨removed, gone, created⟩ | ⟨absent, created⟩
  · obtain ⟨place, led, -, others⟩ := FileTree.node?_removeDirectories gone
    refine emptied_of_created nonempty created ?_
    intro placeAfter ledAfter
    obtain rfl := FileTree.place_unique led ledAfter
    exact others
  · obtain ⟨noDots, grounded⟩ : ".." ∉ Path.names root ∧ before.Grounded := by
      rcases found with there | both
      · cases there.symm.trans absent
      · exact both
    refine emptied_of_created nonempty created ?_
    intro place led other _
    split
    · next below => exact grounded.none_of_absent noDots absent led below
    · rfl

/-- A root that is not found because its path leads through a missing directory is not emptied. -/
example :
    let before : FileTree := ⟨[(["keys"], .directory), (["keys", "ls_0"], .directory)]⟩
    let after := (resetKeyStore (m := StateM FileTree) "a/../keys" before).2
    (before.pathExists "a/../keys", after.pathExists "a", after.pathExists "keys/ls_0") =
      (.ok false, .ok true, .ok true) := by
  decide +kernel

section Emptied

variable (emptied : Emptied root before after place) (noDots : ".." ∉ Path.names root)
include emptied noDots

/-- A root whose path does not step back is empty then. -/
theorem Emptied.nothing (below : other.Below place) : after.node? other = none := by
  rcases emptied.below other below with none | ⟨-, passes⟩
  · exact none
  · exact absurd passes (FileTree.not_passes_below noDots emptied.led below)

/-- No worker finds a key store. -/
theorem Emptied.noKeyStore {index : Nat} (led : after.place (workerKeyStore root index) = .ok other) :
    after.node? other = none := by
  rw [workerKeyStore_eq] at led
  have plain : Path.Plain (Path.numbered index "") := Path.numbered_plain index List.not_mem_nil
  exact emptied.nothing noDots (FileTree.below_of_join plain emptied.led led)

end Emptied

example :
    let before : FileTree := ⟨[(["keys"], .directory), (["keys", "ls_0"], .directory)]⟩
    let reset := resetKeyStore (m := StateM FileTree) "keys" before
    (reset.1.1.isOk, reset.2.pathExists "keys", reset.2.pathExists "keys/ls_0") = (true, .ok true, .ok false) := by
  decide +kernel

end LiteserverFleet.Startup
