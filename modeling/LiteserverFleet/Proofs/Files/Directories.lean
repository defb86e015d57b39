import LiteserverFleet.Proofs.Files.Tree

/-!
# Making directories

A directory is made together with those above it that are missing.  Whether this succeeds or not, all that happens
to the tree is that there are directories where nothing was, at places to which the path or one of those above it
leads (`createDirectories_grown`); that is, at places that the path itself passes (`passes_of_ancestor`).  If it
succeeds, the path is a directory (`createDirectories_isDirectory`).
-/

set_option autoImplicit false

namespace LiteserverFleet.FileTree

/-- A tree that some paths have got directories in where nothing was. -/
def Grown (paths : List String) (t after : FileTree) : Prop :=
  ∀ place, after.node? place = t.node? place ∨
    t.node? place = none ∧ after.node? place = some .directory ∧
      ∃ path ∈ paths, after.follow path (Path.names path) = .ok place

section Grown

variable {t next after : FileTree} {paths more : List String}

theorem Grown.refl (paths : List String) (t : FileTree) : Grown paths t t :=
  fun _ => .inl rfl

theorem Grown.keeps (grown : Grown paths t after) : t.Keeps after := by
  intro place directory
  rcases grown place with same | ⟨none, -, -⟩
  · rw [same, directory]
  · rw [none] at directory
    cases directory

theorem Grown.mono (grown : Grown paths t after) (subset : paths ⊆ more) : Grown more t after := by
  intro place
  rcases grown place with same | ⟨none, directory, path, member, leads⟩
  · exact .inl same
  · exact .inr ⟨none, directory, path, subset member, leads⟩

theorem Grown.trans (first : Grown paths t next) (second : Grown paths next after) : Grown paths t after := by
  intro place
  rcases second place with same | ⟨none, directory, path, member, leads⟩
  · rcases first place with sameToo | ⟨none, directory, path, member, leads⟩
    · exact .inl (same.trans sameToo)
    · exact .inr ⟨none, same.trans directory, path, member, second.keeps.follow leads⟩
  · rcases first place with sameToo | ⟨-, directoryBefore, -⟩
    · exact .inr ⟨sameToo.symm.trans none, directory, path, member, leads⟩
    · rw [none] at directoryBefore
      cases directoryBefore

theorem grown_put {path : String} {place : Place} (leads : t.follow path (Path.names path) = .ok place)
    (none : t.node? place = none) : Grown [path] t (t.put place .directory) := by
  have noDirectory := noDirectory_of_none none
  intro other
  by_cases same : other = place
  · subst same
    have leadsStill := (keeps_put noDirectory .directory).follow leads
    exact .inr ⟨none, node?_put_self noDirectory _, path, List.mem_singleton_self path, leadsStill⟩
  · exact .inl (node?_put_of_ne same _)

end Grown

/-! ## The steps -/

section Steps

variable {t after : FileTree} {path : String} {paths missing found : List String}
  {result : Except FileFailure Unit} {base : Except FileFailure (List String)}

theorem makeDirectory_cases (made : t.makeDirectory path = (result, after)) :
    (∃ place, t.follow path (Path.names path) = .ok place ∧ t.node? place = none ∧ result = .ok () ∧
        after = t.put place .directory) ∨
      (∃ e, result = .error e) ∧ after = t := by
  unfold makeDirectory at made
  split at made
  · cases made
    exact .inr ⟨⟨_, rfl⟩, rfl⟩
  · next place leads =>
    split at made
    · cases made
      exact .inr ⟨⟨_, rfl⟩, rfl⟩
    · next none =>
      cases made
      exact .inl ⟨place, leads, none, rfl, rfl⟩

/-- A directory is made, or is there already; looking at what is there changes nothing. -/
theorem ensureDirectory_cases
    (ran : FileStore.ensureDirectory (m := StateM FileTree) path t = (result, after)) :
    t.makeDirectory path = (result, after) ∨
      t.makeDirectory path = (.error .alreadyExists, after) ∧ result = .ok () ∧
        after.isDirectory path = true := by
  rcases made : t.makeDirectory path with ⟨outcome, next⟩
  have performed : FileStore.makeDirectory (m := StateM FileTree) path t = (outcome, next) := made
  have asked : FileStore.isDirectory (m := StateM FileTree) path next = (next.isDirectory path, next) := rfl
  simp only [FileStore.ensureDirectory, bind, StateT.bind, performed] at ran
  split at ran
  · simp only [bind, StateT.bind, asked] at ran
    split at ran
    · next directory =>
      cases ran
      exact .inr ⟨rfl, rfl, directory⟩
    · cases ran
      exact .inl rfl
  · cases ran
    exact .inl rfl

/-- The search for a base ends where a directory is there, and goes on above one whose path is not. -/
theorem findBase_cases
    (ran : FileStore.findBase (m := StateM FileTree) missing (path :: paths) t = (base, after)) :
    FileStore.ensureDirectory (m := StateM FileTree) path t = (.ok (), after) ∧ base = .ok missing ∨
      (∃ next, FileStore.ensureDirectory (m := StateM FileTree) path t = (.error .notFound, next) ∧
        FileStore.findBase (m := StateM FileTree) (path :: missing) paths next = (base, after)) ∨
      ∃ e, FileStore.ensureDirectory (m := StateM FileTree) path t = (.error e, after) ∧ base = .error e := by
  rcases ensured : FileStore.ensureDirectory (m := StateM FileTree) path t with ⟨outcome, next⟩
  simp only [FileStore.findBase, bind, StateT.bind, ensured] at ran
  split at ran
  · cases ran
    exact .inl ⟨rfl, rfl⟩
  · exact .inr (.inl ⟨next, rfl, ran⟩)
  · cases ran
    exact .inr (.inr ⟨_, rfl, rfl⟩)

theorem ensureEach_cases
    (ran : FileStore.ensureEach (m := StateM FileTree) (path :: paths) t = (result, after)) :
    (∃ next, FileStore.ensureDirectory (m := StateM FileTree) path t = (.ok (), next) ∧
        FileStore.ensureEach (m := StateM FileTree) paths next = (result, after)) ∨
      ∃ e, FileStore.ensureDirectory (m := StateM FileTree) path t = (.error e, after) ∧ result = .error e := by
  rcases ensured : FileStore.ensureDirectory (m := StateM FileTree) path t with ⟨outcome, next⟩
  simp only [FileStore.ensureEach, bind, StateT.bind, ensured] at ran
  cases outcome with
  | ok => exact .inl ⟨next, rfl, ran⟩
  | error e =>
      cases ran
      exact .inr ⟨e, rfl, rfl⟩

theorem createDirectories_cases (nonempty : path ≠ "")
    (ran : FileStore.createDirectories (m := StateM FileTree) path t = (result, after)) :
    (∃ missing next,
        FileStore.findBase (m := StateM FileTree) [] (Path.ancestors path) t = (.ok missing, next) ∧
        FileStore.ensureEach (m := StateM FileTree) missing next = (result, after)) ∨
      ∃ e, FileStore.findBase (m := StateM FileTree) [] (Path.ancestors path) t = (.error e, after) ∧
        result = .error e := by
  rcases based : FileStore.findBase (m := StateM FileTree) [] (Path.ancestors path) t with ⟨outcome, next⟩
  unfold FileStore.createDirectories at ran
  simp only [if_neg nonempty, bind, StateT.bind, based] at ran
  cases outcome with
  | ok missing => exact .inl ⟨missing, next, rfl, ran⟩
  | error e =>
      cases ran
      exact .inr ⟨e, rfl, rfl⟩

/-! ## What grows -/

theorem makeDirectory_grown (made : t.makeDirectory path = (result, after)) : Grown [path] t after := by
  rcases makeDirectory_cases made with ⟨place, leads, none, -, rfl⟩ | ⟨-, rfl⟩
  · exact grown_put leads none
  · exact .refl _ _

theorem ensureDirectory_grown
    (ran : FileStore.ensureDirectory (m := StateM FileTree) path t = (result, after)) :
    Grown [path] t after := by
  rcases ensureDirectory_cases ran with made | ⟨made, -, -⟩
  · exact makeDirectory_grown made
  · exact makeDirectory_grown made

theorem Grown.of_head (grown : Grown [path] t after) : Grown (path :: paths) t after :=
  grown.mono (List.cons_subset_cons path (List.nil_subset paths))

theorem findBase_grown
    (ran : FileStore.findBase (m := StateM FileTree) missing paths t = (base, after)) :
    Grown paths t after ∧ ∀ found, base = .ok found → missing ⊆ found ∧ found ⊆ paths ++ missing := by
  induction paths generalizing t missing with
  | nil =>
      cases ran
      refine ⟨.refl _ _, ?_⟩
      intro found isFound
      cases isFound
      exact ⟨List.Subset.refl _, List.Subset.refl _⟩
  | cons path above ih =>
      rcases findBase_cases ran with ⟨ensured, rfl⟩ | ⟨next, ensured, ranAbove⟩ | ⟨e, ensured, rfl⟩
      · refine ⟨(ensureDirectory_grown ensured).of_head, ?_⟩
        intro found isFound
        cases isFound
        exact ⟨List.Subset.refl _, List.subset_append_right _ _⟩
      · obtain ⟨grownAbove, within⟩ := ih ranAbove
        have grown := (ensureDirectory_grown ensured).of_head.trans
          (grownAbove.mono (List.subset_cons_self path above))
        refine ⟨grown, ?_⟩
        intro found isFound
        obtain ⟨below, onPath⟩ := within found isFound
        exact ⟨List.Subset.trans (List.subset_cons_self path missing) below,
          List.Subset.trans onPath List.perm_middle.subset⟩
      · exact ⟨(ensureDirectory_grown ensured).of_head, nofun⟩

theorem ensureEach_grown
    (ran : FileStore.ensureEach (m := StateM FileTree) paths t = (result, after)) : Grown paths t after := by
  induction paths generalizing t with
  | nil =>
      cases ran
      exact .refl _ _
  | cons path below ih =>
      rcases ensureEach_cases ran with ⟨next, ensured, ranBelow⟩ | ⟨e, ensured, -⟩
      · have grown := (ih ranBelow).mono (List.subset_cons_self path below)
        exact (ensureDirectory_grown ensured).of_head.trans grown
      · exact (ensureDirectory_grown ensured).of_head

theorem createDirectories_grown
    (ran : FileStore.createDirectories (m := StateM FileTree) path t = (result, after)) :
    Grown (Path.ancestors path) t after := by
  by_cases empty : path = ""
  · rw [FileStore.createDirectories, if_pos empty] at ran
    cases ran
    exact .refl _ _
  · rcases createDirectories_cases empty ran with ⟨missing, next, based, ranEach⟩ | ⟨e, based, -⟩
    · obtain ⟨grown, within⟩ := findBase_grown based
      have onPath : missing ⊆ Path.ancestors path := by
        simpa using (within missing rfl).2
      exact grown.trans ((ensureEach_grown ranEach).mono onPath)
    · exact (findBase_grown based).1

/-! ## What is a directory then -/

theorem makeDirectory_isDirectory (made : t.makeDirectory path = (.ok (), after)) :
    after.isDirectory path = true := by
  rcases makeDirectory_cases made with ⟨place, leads, none, -, rfl⟩ | ⟨⟨e, failed⟩, -⟩
  · have noDirectory := noDirectory_of_none none
    have leadsStill := (keeps_put noDirectory .directory).follow leads
    exact isDirectory_of_follow leadsStill (node?_put_self noDirectory _)
  · cases failed

theorem ensureDirectory_isDirectory
    (ran : FileStore.ensureDirectory (m := StateM FileTree) path t = (.ok (), after)) :
    after.isDirectory path = true := by
  rcases ensureDirectory_cases ran with made | ⟨-, -, directory⟩
  · exact makeDirectory_isDirectory made
  · exact directory

theorem ensureEach_isDirectory
    (ran : FileStore.ensureEach (m := StateM FileTree) paths t = (.ok (), after)) :
    ∀ path ∈ paths, after.isDirectory path = true := by
  induction paths generalizing t with
  | nil => exact fun _ member => absurd member List.not_mem_nil
  | cons path below ih =>
      rcases ensureEach_cases ran with ⟨next, ensured, ranBelow⟩ | ⟨e, -, failed⟩
      · have made := ensureDirectory_isDirectory ensured
        exact List.forall_mem_cons.mpr ⟨(ensureEach_grown ranBelow).keeps.isDirectory made, ih ranBelow⟩
      · cases failed

/-- What has been made is a directory, whether it could be made at once or only behind those above it. -/
theorem createDirectories_isDirectory (nonempty : path ≠ "")
    (ran : FileStore.createDirectories (m := StateM FileTree) path t = (.ok (), after)) :
    after.isDirectory path = true := by
  rcases createDirectories_cases nonempty ran with ⟨missing, next, based, ranEach⟩ | ⟨e, -, failed⟩
  · rcases findBase_cases based with ⟨ensured, found⟩ | ⟨above, -, ranAbove⟩ | ⟨e, -, failed⟩
    · exact (ensureEach_grown ranEach).keeps.isDirectory (ensureDirectory_isDirectory ensured)
    · have isMissing : path ∈ missing := ((findBase_grown ranAbove).2 missing rfl).1 List.mem_cons_self
      exact ensureEach_isDirectory ranEach path isMissing
    · cases failed
  · cases failed

end Steps

/-! ## Places on the way -/

section Passes

variable {t : FileTree} {path above : String} {start place : Place} {names : List String}

/-- The first names of a path lead to a place. -/
def Passes (t : FileTree) (path : String) (place : Place) : Prop :=
  ∃ front, front <+: Path.names path ∧
    t.walk (if Path.isAbsolute path then .root else []) front = .ok place

theorem walk_cons_prefix {name : String} {next : Place} (directory : t.node? start = some .directory)
    (enters : Enters start name next) (on : ∃ front, front <+: names ∧ t.walk next front = .ok place) :
    ∃ front, front <+: name :: names ∧ t.walk start front = .ok place := by
  obtain ⟨front, isFront, walked⟩ := on
  exact ⟨name :: front, (List.prefix_cons_inj name).mpr isFront,
    walk_cons_eq_ok_iff.mpr ⟨directory, next, enters, walked⟩⟩

/-- Names that stand for the directory itself do not matter on the way. -/
theorem walk_filter_take {k : Nat} (walked : t.walk start ((names.filter (· ≠ ".")).take k) = .ok place) :
    ∃ front, front <+: names ∧ t.walk start front = .ok place := by
  induction names generalizing start k with
  | nil =>
      rw [List.filter_nil, List.take_nil] at walked
      exact ⟨[], List.nil_prefix, walked⟩
  | cons name names ih =>
      by_cases dot : name = "."
      · rw [List.filter_cons_of_neg (by simpa using dot)] at walked
        cases taken : (names.filter (· ≠ ".")).take k with
        | nil =>
            rw [taken] at walked
            exact ⟨[], List.nil_prefix, walked⟩
        | cons next rest =>
            have directory : t.node? start = some .directory := by
              rw [taken] at walked
              exact (walk_cons_eq_ok_iff.mp walked).1
            subst dot
            exact walk_cons_prefix directory .here (ih walked)
      · rw [List.filter_cons_of_pos (by simpa using dot)] at walked
        cases k with
        | zero => exact ⟨[], List.nil_prefix, walked⟩
        | succ k =>
            rw [List.take_succ_cons] at walked
            obtain ⟨directory, next, enters, walked⟩ := walk_cons_eq_ok_iff.mp walked
            exact walk_cons_prefix directory enters (ih walked)

theorem walk_plainNames_take {k : Nat}
    (walked : t.walk (if Path.isAbsolute path then .root else []) ((Path.plainNames path).take k) = .ok place) :
    t.Passes path place := by
  unfold Passes
  cases areNames : Path.names path with
  | nil =>
      rw [Path.plainNames, areNames, List.take_nil] at walked
      exact ⟨[], List.nil_prefix, walked⟩
  | cons first rest =>
      have plain : Path.plainNames path =
          (if Path.isAbsolute path && first = "." then [] else [first]) ++ rest.filter (· ≠ ".") := by
        rw [Path.plainNames, areNames]
      rw [plain] at walked
      by_cases dropped : (Path.isAbsolute path && first = ".") = true
      · have dot : first = "." := by simpa using (Bool.and_eq_true_iff.mp dropped).2
        have same : rest.filter (· ≠ ".") = (first :: rest).filter (· ≠ ".") := by
          rw [List.filter_cons_of_neg (by simpa using dot)]
        rw [if_pos dropped, List.nil_append, same] at walked
        exact walk_filter_take walked
      · rw [if_neg dropped, List.singleton_append] at walked
        cases k with
        | zero => exact ⟨[], List.nil_prefix, walked⟩
        | succ k =>
            rw [List.take_succ_cons] at walked
            obtain ⟨directory, next, enters, walked⟩ := walk_cons_eq_ok_iff.mp walked
            exact walk_cons_prefix directory enters (walk_filter_take walked)

/-- The place to which a path above another one leads is passed by the latter. -/
theorem passes_of_ancestor (isAbove : above ∈ Path.ancestors path)
    (leads : t.follow above (Path.names above) = .ok place) : t.Passes path place := by
  obtain ⟨-, walked⟩ := follow_eq_ok_iff.mp leads
  rcases Path.names_of_ancestor isAbove with rfl | ⟨k, areNames, absolute⟩
  · exact ⟨_, List.prefix_rfl, walked⟩
  · rw [areNames, absolute] at walked
    exact walk_plainNames_take walked

/-- A path that has been made has only got directories where it passes. -/
theorem Grown.node?_cases {after : FileTree} (grown : Grown (Path.ancestors path) t after) (place : Place) :
    after.node? place = t.node? place ∨
      t.node? place = none ∧ after.node? place = some .directory ∧ after.Passes path place := by
  rcases grown place with same | ⟨none, directory, above, isAbove, leads⟩
  · exact .inl same
  · exact .inr ⟨none, directory, passes_of_ancestor isAbove leads⟩

end Passes

end LiteserverFleet.FileTree
