/-
**Only the latest run leaves its outcome.**

However many runs are in flight and in whatever order their outcomes arrive, a run leaves its
outcome in the graph exactly if nothing disturbed it since it was started: no other execution began,
nothing was cancelled or dropped, and the session was not closed.  Once the session is closed, no run
changes the graph any more.

Edits from outside are arbitrary here; they may even finish or abandon a run by a made-up ticket.

Main definitions:

* `QueryBuilder.Desk.InFlight` — a run that was started at some point of a schedule waits for its
  outcome;
* `QueryBuilder.Desk.Issued`, `QueryBuilder.Desk.Over` — all tickets were given out by the count, and
  all are stale for good.

Main results:

* `QueryBuilder.Desk.InFlight.isCurrent_iff` — the ticket of a run is the latest one exactly if
  nothing disturbed the run;
* `QueryBuilder.Desk.Over.session_step` — runs of a closed session do nothing;
* `QueryBuilder.Desk.latest_run_recorded` — **only undisturbed runs leave their outcome**.
-/

import QueryBuilder.Proofs.Graph.Reachability
import QueryBuilder.Proofs.Session.Schedules

set_option autoImplicit false

namespace QueryBuilder

namespace Desk

variable {α : Type}

/-! ### Tickets -/

/-- No run in flight has a ticket above the count. -/
def Issued (w : Desk α) : Prop :=
  ∀ number run, w.pending? number = some run → run.ticket.generation ≤ w.generation

/-- The session is closed, and every run in flight is stale. -/
structure Over (w : Desk α) : Prop where
  closed : w.session.closed = true
  stale : ∀ number run, w.pending? number = some run → run.ticket.generation < w.generation

/-- A closed session starts nothing. -/
theorem Over.start_eq {w : Desk α} (h : w.Over) :
    w.session.start = (.error .superseded, w.session) := by
  unfold Session.start
  rw [if_pos h.closed]

/-- Runs in flight in a closed session are stale. -/
theorem Over.isCurrent_eq_false {w : Desk α} (h : w.Over) {number : Nat} {run : Run}
    (hp : w.pending? number = some run) : w.session.graph.isCurrent run.ticket = false := by
  rw [Graph.isCurrent, beq_eq_false_iff_ne]
  exact Nat.ne_of_lt (h.stale number run hp)

variable [Coordinate α]

/-! ### A run in flight -/

/-- A session that started with a graph, after a schedule. -/
def after (g : Graph α) (events : List (Event α)) : Desk α :=
  (ofGraph g).run events

/-- What is said of a run in flight when its outcome arrives. -/
def report? (w : Desk α) (number : Nat) (outcome : RunOutcome) : Option RunReport :=
  (w.pending? number).map fun run => (w.session.resolve run outcome).1

/-- A run was started after the first part of a schedule, and is still in flight after the second
part. -/
structure InFlight (g : Graph α) (before between : List (Event α)) (number : Nat) : Prop where
  started : (after g before).Disturbs .start
  number_eq : number = (after g before).runs.length
  pending : ((after g (before ++ .start :: between)).pending? number).isSome = true

theorem after_start (g : Graph α) (before between : List (Event α)) :
    after g (before ++ .start :: between) = ((after g before).step .start).run between :=
  run_append ..

/-- The ticket of a started run is the count, and the run is found under the next number. -/
theorem pending?_start {w : Desk α} (h : w.Disturbs .start) :
    ∃ run, (w.step .start).pending? w.runs.length = some run ∧
      run.ticket.generation = (w.step .start).generation ∧
      w.runs.length < (w.step .start).runs.length := by
  obtain ⟨run, hrun⟩ := h
  rcases start_cases w.session with ⟨request, hstart, -⟩ | ⟨report, hstart⟩
  · refine ⟨⟨w.session.graph.begin.1, request⟩, ?_, ?_, ?_⟩
    · simp [step, hstart, pending?]
    · simp only [step, hstart]
      rfl
    · simp [step, hstart]
  · rw [hstart] at hrun
    cases hrun

/-- **The ticket of a run in flight is the latest one exactly if nothing disturbed the run.** -/
theorem InFlight.isCurrent_iff {g : Graph α} {before between : List (Event α)} {number : Nat}
    (h : InFlight g before between number) :
    ∃ run, (after g (before ++ .start :: between)).pending? number = some run ∧
      ((after g (before ++ .start :: between)).session.graph.isCurrent run.ticket = true ↔
        ((after g before).step .start).Undisturbed between) := by
  obtain ⟨run, hrun⟩ := Option.isSome_iff_exists.1 h.pending
  obtain ⟨started, hstarted, hticket, hlt⟩ := pending?_start h.started
  refine ⟨run, hrun, ?_⟩
  rw [after_start] at hrun ⊢
  -- the run that waits under the number is the one that was started
  have hsame : run = started := by
    rw [h.number_eq] at hrun
    exact Option.some.inj ((pending_run hlt hrun).symm.trans hstarted)
  rw [Graph.isCurrent, beq_iff_eq, hsame, hticket]
  constructor
  · intro heq
    by_contra hnot
    exact absurd heq (Nat.ne_of_lt (generation_run_lt hnot))
  · intro hundisturbed
    exact (generation_run_eq hundisturbed).symm

/-- The outcome of a current run is recorded. -/
theorem step_resolve_current {w : Desk α} {number : Nat} {run : Run}
    (hp : w.pending? number = some run) (hc : w.session.graph.isCurrent run.ticket = true)
    (outcome : RunOutcome) :
    w.report? number outcome = some (.ofOutcome outcome) ∧
      (w.step (.resolve number outcome)).session.graph = w.session.graph.recorded outcome := by
  constructor
  · rw [report?, hp, Option.map_some, resolve_current hc]
  · simp only [step, hp, dropRun_resolve]
    rw [resolve_current hc]
    rfl

/-- The outcome of a stale run is dropped. -/
theorem step_resolve_stale {w : Desk α} {number : Nat} {run : Run}
    (hp : w.pending? number = some run) (hc : w.session.graph.isCurrent run.ticket = false)
    (outcome : RunOutcome) :
    w.report? number outcome = some .superseded ∧
      (w.step (.resolve number outcome)).session = w.session := by
  constructor
  · rw [report?, hp, Option.map_some, resolve_stale hc]
  · simp only [step, hp, dropRun_resolve]
    rw [resolve_stale hc]
    rfl

/-! ### Closed sessions -/

/-- Every event keeps tickets within the count. -/
theorem Issued.step {w : Desk α} (h : w.Issued) (e : Event α) : (w.step e).Issued := by
  intro number run hrun
  rcases pending?_step hrun with hp | ⟨rfl, hstart, rfl⟩
  · exact Nat.le_trans (h number run hp) (w.generation_le_step e)
  · obtain ⟨started, hstarted, hticket, -⟩ := pending?_start ⟨run, hstart⟩
    rw [hrun, Option.some.injEq] at hstarted
    rw [hstarted]
    exact Nat.le_of_eq hticket

/-- Every schedule keeps tickets within the count. -/
theorem Issued.run {w : Desk α} (h : w.Issued) (events : List (Event α)) :
    (w.run events).Issued := by
  induction events generalizing w with
  | nil => exact h
  | cons e events ih => exact ih (h.step e)

/-- Tickets are within the count at every time. -/
theorem issued_after (g : Graph α) (events : List (Event α)) : (after g events).Issued := by
  refine Issued.run (fun number run hrun => ?_) events
  simp [ofGraph, pending?] at hrun

/-- Closing leaves every run stale. -/
theorem Issued.over_close {w : Desk α} (h : w.Issued) : (w.step .close).Over where
  closed := rfl
  stale := fun number run hrun => Nat.lt_succ_of_le (h number run hrun)

/-- **Runs of a closed session do nothing.** -/
theorem Over.session_step {w : Desk α} (h : w.Over) {e : Event α} (he : e.isRun = true) :
    (w.step e).session = w.session := by
  cases e with
  | start => simp only [step, h.start_eq]
  | resolve number outcome =>
      cases hp : w.pending? number with
      | none => simp only [step, hp]
      | some run => exact (step_resolve_stale hp (h.isCurrent_eq_false hp) outcome).2
  | drop number borrowed =>
      cases hp : w.pending? number with
      | none => simp only [step, hp]
      | some run =>
          simp only [step, hp, dropRun_stale (h.isCurrent_eq_false hp), ite_self]
          rfl
  | close => cases he
  | edit e => cases he

/-- A closed session stays closed, and its runs stay stale. -/
theorem Over.step {w : Desk α} (h : w.Over) (e : Event α) : (w.step e).Over where
  closed := by
    cases he : e.isRun with
    | true =>
        rw [h.session_step he]
        exact h.closed
    | false =>
        cases e with
        | close => rfl
        | edit e => exact h.closed
        | _ => cases he
  stale := by
    intro number run hrun
    rcases pending?_step hrun with hp | ⟨-, hstart, -⟩
    · exact Nat.lt_of_lt_of_le (h.stale number run hp) (w.generation_le_step e)
    · rw [h.start_eq] at hstart
      cases hstart

/-- Every schedule leaves a closed session closed, with stale runs. -/
theorem Over.run {w : Desk α} (h : w.Over) (events : List (Event α)) : (w.run events).Over := by
  induction events generalizing w with
  | nil => exact h
  | cons e events ih => exact ih (h.step e)

/-! ### The latest run -/

/-- **A run leaves its outcome exactly if nothing disturbed it since it was started.**  A result
takes the place of the last one and of the message, a failure becomes the message next to the last
result, and a disturbed run leaves everything as it is.  After the session was closed, neither
asking for a run nor its outcome nor its loss changes the graph. -/
theorem latest_run_recorded (g : Graph α) :
    (∀ (before between : List (Event α)) (number : Nat) (outcome : RunOutcome),
      InFlight g before between number →
        (((after g before).step .start).Undisturbed between →
          (after g (before ++ .start :: between)).report? number outcome =
              some (.ofOutcome outcome) ∧
            (after g (before ++ .start :: between ++ [.resolve number outcome])).session.graph =
              (after g (before ++ .start :: between)).session.graph.recorded outcome) ∧
        (¬ ((after g before).step .start).Undisturbed between →
          (after g (before ++ .start :: between)).report? number outcome = some .superseded ∧
            (after g (before ++ .start :: between ++ [.resolve number outcome])).session.graph =
              (after g (before ++ .start :: between)).session.graph)) ∧
    ∀ (before since : List (Event α)) (e : Event α), e.isRun = true →
      (after g (before ++ .close :: since ++ [e])).session.graph =
        (after g (before ++ .close :: since)).session.graph := by
  constructor
  · intro before between number outcome h
    obtain ⟨run, hrun, hiff⟩ := h.isCurrent_iff
    have hlast : after g (before ++ .start :: between ++ [.resolve number outcome]) =
        (after g (before ++ .start :: between)).step (.resolve number outcome) := run_append ..
    rw [hlast]
    refine ⟨fun hundisturbed => step_resolve_current hrun (hiff.2 hundisturbed) outcome,
      fun hdisturbed => ?_⟩
    have hstale := Bool.eq_false_iff.2 fun hc => hdisturbed (hiff.1 hc)
    obtain ⟨hreport, hsession⟩ := step_resolve_stale hrun hstale outcome
    exact ⟨hreport, by rw [hsession]⟩
  · intro before since e he
    have hover : (after g (before ++ .close :: since)).Over := by
      rw [after, run_append, run_cons]
      exact (issued_after g before).over_close.run since
    have hlast : after g (before ++ .close :: since ++ [e]) =
        (after g (before ++ .close :: since)).step e := run_append ..
    rw [hlast, hover.session_step he]

/-- Two runs in flight, the first of which fails too late; and a run that outlives its session. -/
theorem latest_run_recorded_sample :
    (InFlight Sample.graph [.start] [.resolve 0 (.error "late"), .edit (.removeFilter 7)] 1 ∧
      (after Sample.graph [.start, .start, .resolve 0 (.error "late"),
        .edit (.removeFilter 7)]).report? 1 (.error "refused") = some (.failed "refused")) ∧
    (InFlight Sample.graph [] [.start] 0 ∧
      (after Sample.graph [.start, .start]).report? 0 (.error "late") = some .superseded) ∧
    (after Sample.graph [.start, .close, .edit .begin, .resolve 0 (.error "late")]).session.graph =
      (after Sample.graph [.start, .close, .edit .begin]).session.graph := by
  have hsecond : InFlight Sample.graph [.start]
      [.resolve 0 (.error "late"), .edit (.removeFilter 7)] 1 :=
    ⟨by decide +kernel, by decide +kernel, by decide +kernel⟩
  have hfirst : InFlight Sample.graph [] [.start] 0 :=
    ⟨by decide +kernel, by decide +kernel, by decide +kernel⟩
  exact ⟨⟨hsecond, (((latest_run_recorded _).1 _ _ _ _ hsecond).1 (by decide +kernel)).1⟩,
    ⟨hfirst, (((latest_run_recorded _).1 _ _ _ _ hfirst).2 (by decide +kernel)).1⟩,
    (latest_run_recorded _).2 [.start] [.edit .begin] (.resolve 0 (.error "late")) rfl⟩

end Desk

end QueryBuilder
