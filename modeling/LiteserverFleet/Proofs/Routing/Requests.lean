import LiteserverFleet.Monitor
import LiteserverFleet.Proofs.Routing.Fairness

/-!
# Requests that share a source

Requests are served in order, each from the fleet as it is then, and all of them draw from one source.  A request
that leaves no choice takes nothing from it, and one for several workers takes the same words whatever their
number; so neither the former nor the number of the latter is noticed by the others
(`answers_undisturbed`).
-/

set_option autoImplicit false

namespace LiteserverFleet

/-- A selection with the fleet from which it is served. -/
structure Request where
  fleet : Fleet
  selection : Selection

namespace Request

open Routing (candidates select? Draws)

/-- Nothing is to be drawn: the policy leaves no choice, or there is no candidate. -/
def Idle (request : Request) : Prop :=
  ¬ Draws request.selection.policy ∨ ∀ i, ¬ request.fleet.Candidate request.selection.archival i

def forCount (fleet : Fleet) (archival : Bool) (n : Nat) : Request :=
  ⟨fleet, { policy := .count n, archival }⟩

/-- The same request, but perhaps for another number of workers. -/
inductive Recounted : Request → Request → Prop where
  | same (request : Request) : Recounted request request
  | count (fleet : Fleet) (archival : Bool) (n k : Nat) :
      Recounted (forCount fleet archival n) (forCount fleet archival k)

section Serve

variable {σ : Type} [WordSource σ] {request : Request} {fleet : Fleet} {archival : Bool} {source : σ}

/-- The answer to a request, and the source behind it.  A draw that does not complete leaves the request
without an answer. -/
def serve (request : Request) (source : σ) : Option (List Nat) × σ :=
  match select? request.fleet request.selection source with
  | some (chosen, rest) => (some chosen, rest)
  | none => (none, source)

theorem serve_of_select? {chosen : List Nat} {rest : σ}
    (selected : select? request.fleet request.selection source = some (chosen, rest)) :
    request.serve source = (some chosen, rest) := by
  rw [serve, selected]

theorem serve_of_none (failed : select? request.fleet request.selection source = none) :
    request.serve source = (none, source) := by
  rw [serve, failed]

theorem serve_of_idle (idle : request.Idle) (source : σ) :
    ∃ chosen, request.serve source = (some chosen, source) := by
  suffices untouched : ∃ chosen, select? request.fleet request.selection source = some (chosen, source) by
    obtain ⟨chosen, selected⟩ := untouched
    exact ⟨chosen, serve_of_select? selected⟩
  unfold select?
  dsimp only
  split
  · exact ⟨[], rfl⟩
  · next notEmpty =>
    have noDraw : ¬ Draws request.selection.policy := by
      rcases idle with noDraw | noCandidate
      · exact noDraw
      · have nonempty : candidates request.selection.archival request.fleet ≠ [] := by
          simpa using notEmpty
        obtain ⟨i, member⟩ := List.exists_mem_of_ne_nil _ nonempty
        exact absurd (Routing.mem_candidates.mp member) (noCandidate i)
    split
    · exact ⟨_, rfl⟩
    · exact ⟨_, rfl⟩
    · next policy =>
      rw [policy] at noDraw
      exact absurd trivial noDraw
    · exact ⟨_, rfl⟩
    · next n policy =>
      rw [policy] at noDraw
      exact absurd trivial noDraw

/-- The words that a request for several workers takes, and the order they give, are the same for every
number of workers. -/
theorem select?_forCount (fleet : Fleet) (archival : Bool) (source : σ) :
    ∃ shuffled : Option (List Nat × σ), ∀ n,
      select? fleet (forCount fleet archival n).selection source =
        shuffled.map fun (order, rest) => (order.take n, rest) := by
  by_cases empty : candidates archival fleet = []
  · refine ⟨some ([], source), ?_⟩
    intro n
    simp [select?, forCount, empty]
  · refine ⟨Random.shuffle? (candidates archival fleet) source, ?_⟩
    intro n
    simp [select?, forCount, empty]

theorem serve_forCount (fleet : Fleet) (archival : Bool) (source : σ) :
    ∃ (order : Option (List Nat)) (rest : σ), ∀ n,
      (forCount fleet archival n).serve source = (order.map (List.take n), rest) := by
  obtain ⟨shuffled, selected⟩ := select?_forCount fleet archival source
  cases shuffled with
  | none => exact ⟨none, source, fun n => serve_of_none (selected n)⟩
  | some outcome => exact ⟨some outcome.1, outcome.2, fun n => serve_of_select? (selected n)⟩

/-- The source behind a request does not tell for how many workers it was. -/
theorem serve_source_of_recounted {other : Request} (recounted : Recounted request other)
    (source : σ) : (request.serve source).2 = (other.serve source).2 := by
  cases recounted with
  | same => rfl
  | count fleet archival n k =>
      obtain ⟨order, rest, served⟩ := serve_forCount fleet archival source
      rw [served n, served k]

end Serve

/-! ## Requests in order -/

section Answers

variable {σ : Type} [WordSource σ]

/-- The answers to requests that are served in order from one source. -/
def answers : List Request → σ → List (Option (List Nat))
  | [], _ => []
  | request :: later, source =>
      (request.serve source).1 :: answers later (request.serve source).2

/-- The elements of a list that are marked. -/
def kept {α : Type} : List Bool → List α → List α
  | mark :: marks, x :: xs => if mark then x :: kept marks xs else kept marks xs
  | _, _ => []

/-- The answers to the requests that are left do not change if idle ones are left out. -/
theorem answers_kept {marks : List Bool} {requests : List Request}
    (whole : marks.length = requests.length)
    (idle : ∀ p ∈ marks.zip requests, p.1 = false → p.2.Idle) (source : σ) :
    answers (kept marks requests) source = kept marks (answers requests source) := by
  induction marks generalizing requests source with
  | nil => rfl
  | cons mark marks ih =>
      cases requests with
      | nil => rfl
      | cons request later =>
          obtain ⟨idleFirst, idleLater⟩ := List.forall_mem_cons.mp idle
          have keptLater := ih (Nat.succ.inj whole) idleLater
          cases mark with
          | true => exact congrArg (List.cons _) (keptLater (request.serve source).2)
          | false =>
              -- The request that is left out has left the source as it found it.
              obtain ⟨chosen, served⟩ := serve_of_idle (idleFirst rfl) source
              simp only [kept, answers, served, Bool.false_eq_true, if_false]
              exact keptLater source

/-- An answer does not tell for how many workers the other requests were. -/
theorem answers_of_recounted {requests others : List Request}
    (recounted : List.Forall₂ Recounted requests others) (source : σ) {k : Nat} {request : Request}
    (found : requests[k]? = some request) (foundToo : others[k]? = some request) :
    (answers requests source)[k]? = (answers others source)[k]? := by
  induction recounted generalizing source k with
  | nil => cases found
  | @cons first other later othersLater recountedFirst recountedLater ih =>
      cases k with
      | zero =>
          cases Option.some.inj found
          cases Option.some.inj foundToo
          rfl
      | succ k =>
          have sameSource := serve_source_of_recounted recountedFirst source
          simp only [answers, List.getElem?_cons_succ, sameSource]
          exact ih _ found foundToo

end Answers

end Request

/-! ## The requests of a run -/

namespace Monitor

open Request (answers)

variable {σ : Type} [WordSource σ] {settings : Settings}

def Event.selection? : Event → Option Selection
  | .select selection => some selection
  | _ => none

def Reply.selected? : Reply → Option (List Nat)
  | .selected workers => some workers
  | .statuses _ => none

/-- The selections of a run, each with the fleet as it is when the selection comes. -/
def requests (settings : Settings) : Monitor σ → List Event → List Request
  | _, [] => []
  | m, event :: later =>
      (event.selection?.map (Request.mk m.fleet)).toList ++
        requests settings (m.step settings event).monitor later

/-- What a run replies to its selections. -/
def picks (settings : Settings) : Monitor σ → List Event → List (Option (List Nat))
  | _, [] => []
  | m, event :: later =>
      let reaction := m.step settings event
      (event.selection?.map fun _ => reaction.reply.bind Reply.selected?).toList ++
        picks settings reaction.monitor later

theorem onSelect_serve (selection : Selection) (m : Monitor σ) :
    (m.onSelect selection).reply.bind Reply.selected? = (Request.serve ⟨m.fleet, selection⟩ m.source).1 ∧
      (m.onSelect selection).monitor.source = (Request.serve ⟨m.fleet, selection⟩ m.source).2 := by
  unfold onSelect Request.serve
  split
  · next selected => simp [selected, Reply.selected?]
  · next failed => simp [failed]

/-- Only selections draw from the source. -/
theorem step_source (m : Monitor σ) {event : Event} (other : event.selection? = none) :
    (m.step settings event).monitor.source = m.source := by
  cases event with
  | tick now =>
      simp only [step, onTick]
      split <;> rfl
  | aliveCompleted worker now result => rfl
  | archivalCompleted worker succeeded => rfl
  | select selection => cases other
  | snapshot => rfl

/-- A run replies to its selections as if it served them alone. -/
theorem picks_eq_answers (m : Monitor σ) (events : List Event) :
    m.picks settings events = answers (m.requests settings events) m.source := by
  induction events generalizing m with
  | nil => rfl
  | cons event later ih =>
      have others := ih (m.step settings event).monitor
      cases isSelection : event.selection? with
      | none =>
          have source : (m.step settings event).monitor.source = m.source := step_source m isSelection
          simp only [picks, requests, isSelection, others, source]
          rfl
      | some selection =>
          obtain rfl : event = .select selection := by
            cases event <;> cases isSelection
            rfl
          obtain ⟨reply, source⟩ := onSelect_serve selection m
          simp only [picks, requests, isSelection, others]
          simp only [Option.map_some, Option.toList_some, List.singleton_append, answers]
          exact congrArg₂ List.cons reply (congrArg (answers _) source)

end Monitor

namespace Request

/-- Requests that share a source disturb each other only by the words they take.  An idle one takes none, so leaving
idle ones out changes no other answer; one for several workers takes the same words for every number, so
the numbers change no other answer, and fewer workers are the first ones of more.  The selections of a run of the
monitor are such requests. -/
theorem answers_undisturbed (σ : Type) [WordSource σ] :
    (∀ (request : Request) (source : σ), request.Idle →
      ∃ chosen, request.serve source = (some chosen, source)) ∧
    (∀ (marks : List Bool) (requests : List Request) (source : σ), marks.length = requests.length →
      (∀ p ∈ marks.zip requests, p.1 = false → p.2.Idle) →
        answers (kept marks requests) source = kept marks (answers requests source)) ∧
    (∀ fleet archival n k (source : σ),
      ((forCount fleet archival n).serve source).2 = ((forCount fleet archival k).serve source).2) ∧
    (∀ (requests others : List Request) (source : σ), List.Forall₂ Recounted requests others →
      ∀ (k : Nat) (request : Request), requests[k]? = some request → others[k]? = some request →
        (answers requests source)[k]? = (answers others source)[k]?) ∧
    (∀ fleet archival n k (source : σ) more, n ≤ k →
      ((forCount fleet archival k).serve source).1 = some more →
        ∃ chosen, ((forCount fleet archival n).serve source).1 = some chosen ∧ chosen <+: more) ∧
    ∀ settings (m : Monitor σ) events,
      m.picks settings events = answers (m.requests settings events) m.source := by
  refine ⟨fun request source idle => serve_of_idle idle source,
    fun marks requests source whole idle => answers_kept whole idle source, ?_,
    fun requests others source recounted k request => answers_of_recounted recounted source, ?_,
    fun settings m events => m.picks_eq_answers events⟩
  · intro fleet archival n k source
    exact serve_source_of_recounted (.count fleet archival n k) source
  · intro fleet archival n k source more fewer served
    obtain ⟨order, rest, each⟩ := serve_forCount fleet archival source
    rw [each] at served ⊢
    obtain ⟨whole, isOrder, isMore⟩ := Option.map_eq_some_iff.mp served
    refine ⟨whole.take n, congrArg (Option.map (List.take n)) isOrder, ?_⟩
    rw [← isMore]
    exact List.take_prefix_take_left fewer

/-- A pinned request, one for some of three workers, and one for any of two; the second word is refused. -/
theorem answers_undisturbed_three_requests :
    let up : Worker := { alive := true }
    let pinned : Request := ⟨[up, {}], { policy := .single (some 1) }⟩
    let several (n : Nat) : Request := forCount [up, up, {}, up] false n
    let any : Request := ⟨[{}, up, up], { policy := .single none }⟩
    let words : List UInt32 := [0, 0xFFFFFFF0, 0x80000000, 0x80000001]
    answers [pinned, several 1, any] words = [some [], some [3], some [2]] ∧
      answers [several 1, any] words = [some [3], some [2]] ∧
        (answers [pinned, several 3, any] words)[2]? = some (some [2]) := by
  intro up pinned several any words
  have three : Random.Die.roll? ⟨3⟩ words = some (0, [0xFFFFFFF0, 0x80000000, 0x80000001]) := by
    rw [Random.roll?_of_accepts (by decide)]
    decide
  have two : Random.Die.roll? ⟨2⟩ ([0xFFFFFFF0, 0x80000000, 0x80000001] : List UInt32) =
      some (1, [0x80000001]) := by
    rw [Random.roll?_of_refused (by decide), Random.roll?_of_accepts (by decide)]
    decide
  have last : Random.Die.roll? ⟨2⟩ ([0x80000001] : List UInt32) = some (1, []) := by
    rw [Random.roll?_of_accepts (by decide)]
    decide
  have servedPinned : pinned.serve words = (some [], words) := by
    have policy : pinned.selection.policy = .single (some 1) := rfl
    have dead : 1 ∉ Routing.candidates pinned.selection.archival pinned.fleet := by decide
    apply serve_of_select?
    rw [Routing.select?_pinned policy, if_neg dead]
  have servedSeveral : (several 1).serve words = (some [3], [0x80000001]) := by
    apply serve_of_select?
    show (Random.shuffle? [0, 1, 3] words).map _ = _
    simp [Random.shuffle?, Random.exchanges?, three, two, Random.arrange, Random.swap]
  have servedAny : any.serve ([0x80000001] : List UInt32) = (some [2], []) := by
    apply serve_of_select?
    show (Random.choose? [1, 2] ([0x80000001] : List UInt32)).map _ = _
    simp [Random.choose?, last]
  have all : answers [pinned, several 1, any] words = [some [], some [3], some [2]] := by
    simp only [answers, servedPinned, servedSeveral, servedAny]
  obtain ⟨-, leftOut, -, recounted, -⟩ := answers_undisturbed (List UInt32)
  refine ⟨all, ?_, ?_⟩
  · have idle : ∀ p ∈ [false, true, true].zip [pinned, several 1, any], p.1 = false → p.2.Idle := by
      have pinnedIdle : pinned.Idle := .inl id
      have notLeftOut (request : Request) (leftOut : true = false) : request.Idle :=
        Bool.noConfusion leftOut
      refine List.forall_mem_cons.mpr ⟨fun _ => pinnedIdle, ?_⟩
      refine List.forall_mem_cons.mpr ⟨notLeftOut (several 1), ?_⟩
      exact List.forall_mem_singleton.mpr (notLeftOut any)
    exact (leftOut _ _ words rfl idle).trans (congrArg (kept [false, true, true]) all)
  · have same : List.Forall₂ Recounted [pinned, several 3, any] [pinned, several 1, any] :=
      .cons (.same _) (.cons (.count _ _ 3 1) (.cons (.same _) .nil))
    exact (recounted _ _ words same 2 any rfl rfl).trans (congrArg (fun answers => answers[2]?) all)

end Request

end LiteserverFleet
