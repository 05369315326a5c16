/-
**Sessions with any number of runs in flight.**

A session starts runs, and their outcomes arrive later and in any order, or never; in between the
graph is edited, and the session may be closed.  A schedule is any list of such events.  Runs are
known by their number: the first run that a session starts is number `0`.  A run that has its
outcome, or that was dropped, is no longer in flight, and events that name it do nothing.

The only trace that a run leaves in the session is its ticket.  The count of the graph tells whether
the ticket is the latest one, and it goes up with every event that makes runs stale and stays with
every other one.

Main definitions:

* `QueryBuilder.Graph.recorded`, `QueryBuilder.RunReport.ofOutcome` — what a run leaves behind, and
  what is said of it;
* `QueryBuilder.Event`, `QueryBuilder.Desk` — what happens to a session, and a session with its
  runs;
* `QueryBuilder.Desk.step`, `QueryBuilder.Desk.run` — a session after an event, and after a schedule;
* `QueryBuilder.Desk.Disturbs`, `QueryBuilder.Desk.Undisturbed` — events that make runs stale, and
  schedules without one.

Main results:

* `QueryBuilder.Desk.generation_step_of_disturbs`,
  `QueryBuilder.Desk.generation_step_of_not_disturbs` — the count after an event;
* `QueryBuilder.Desk.generation_run_eq`, `QueryBuilder.Desk.generation_run_lt` — the count after a
  schedule, undisturbed or not;
* `QueryBuilder.Desk.pending_run` — a run in flight has been in flight since it was started.
-/

import QueryBuilder.Proofs.Graph.Generations
import QueryBuilder.Session.Basic

set_option autoImplicit false

namespace QueryBuilder

variable {α : Type}

/-! ### What a run leaves behind -/

/-- The graph with the outcome of a run: a result, or the reason of a failure next to the last
result. -/
def Graph.recorded (g : Graph α) : RunOutcome → Graph α
  | .ok result => { g with executing := false, lastResult := some result, error := none }
  | .error reason => { g with executing := false, error := some reason }

/-- The outcome under a ticket that is the count is recorded. -/
theorem Graph.finish_of_isCurrent {g : Graph α} {ticket : Ticket} (h : g.isCurrent ticket = true)
    (outcome : RunOutcome) : g.finish ticket outcome = (true, g.recorded outcome) := by
  unfold finish
  rw [if_pos h]
  cases outcome <;> rfl

/-- The outcome under any other ticket changes nothing. -/
theorem Graph.finish_of_not_isCurrent {g : Graph α} {ticket : Ticket}
    (h : g.isCurrent ticket = false) (outcome : RunOutcome) :
    g.finish ticket outcome = (false, g) := by
  unfold finish
  rw [if_neg (by rw [h]; decide)]

/-- The report on a run that left its outcome. -/
def RunReport.ofOutcome : RunOutcome → RunReport
  | .ok result => .completed result.rowCount
  | .error reason => .failed reason

/-! ### Numbered places -/

/-- A place that is cleared holds nothing, and the others stay as they are. -/
theorem join_getElem?_set_none {β : Type} (places : List (Option β)) (cleared number : Nat) :
    (places.set cleared none)[number]?.join =
      if number = cleared then none else places[number]?.join := by
  by_cases h : number = cleared
  · rw [if_pos h, h]
    by_cases hlt : cleared < places.length
    · simp [hlt]
    · rw [List.getElem?_eq_none (by simpa using hlt)]
      rfl
  · rw [if_neg h, List.getElem?_set_ne (Ne.symm h)]

/-- What a place holds was there before, or it was put behind all places. -/
theorem join_getElem?_concat {β : Type} {places : List (Option β)} {added b : β} {number : Nat}
    (h : (places ++ [some added])[number]?.join = some b) :
    places[number]?.join = some b ∨ number = places.length ∧ b = added := by
  rcases Nat.lt_trichotomy number places.length with hlt | rfl | hgt
  · rw [List.getElem?_append_left hlt] at h
    exact .inl h
  · exact .inr ⟨rfl, by simpa using h.symm⟩
  · rw [List.getElem?_eq_none (by rw [List.length_append]; exact hgt)] at h
    cases h

/-! ### Events -/

/-- What happens to a session. -/
inductive Event (α : Type) where
  /-- A run is asked for, and started if the session is ready for it. -/
  | start
  /-- The outcome of a run arrives. -/
  | resolve (number : Nat) (outcome : RunOutcome)
  /-- A run is dropped before its outcome arrives.  While the graph is borrowed this leaves no trace
  in it. -/
  | drop (number : Nat) (borrowed : Bool)
  | close
  /-- An edit of the graph from outside, which may also start, finish, abandon or cancel runs. -/
  | edit (e : Edit α)

/-- Whether an event belongs to a run that the session itself started or is asked to start. -/
def Event.isRun : Event α → Bool
  | .start | .resolve .. | .drop .. => true
  | _ => false

/-- A session with its runs by number; those that are no longer in flight are `none`. -/
structure Desk (α : Type) where
  session : Session α
  runs : List (Option Run)

namespace Desk

/-- A session at its start. -/
def ofGraph (g : Graph α) : Desk α := ⟨.ofGraph g, []⟩

/-- The run with a number, if it is in flight. -/
def pending? (w : Desk α) (number : Nat) : Option Run :=
  w.runs[number]?.join

/-- A run is no longer in flight. -/
def settle (w : Desk α) (number : Nat) (session : Session α) : Desk α :=
  ⟨session, w.runs.set number none⟩

/-- A session after an event.  A run is given up when it is over, whether it has an outcome or
not. -/
def step [Coordinate α] (w : Desk α) : Event α → Desk α
  | .start =>
    match w.session.start with
    | (.ok run, session) => ⟨session, w.runs ++ [some run]⟩
    | (.error _, session) => { w with session }
  | .resolve number outcome =>
    match w.pending? number with
    | some run => w.settle number ((w.session.resolve run outcome).2.dropRun run)
    | none => w
  | .drop number borrowed =>
    match w.pending? number with
    | some run => w.settle number (if borrowed then w.session else w.session.dropRun run)
    | none => w
  | .close => { w with session := w.session.close }
  | .edit e => { w with session := { w.session with graph := w.session.graph.apply e } }

/-- A session after a schedule, whose first event comes first. -/
def run [Coordinate α] (w : Desk α) (events : List (Event α)) : Desk α :=
  events.foldl step w

@[simp] theorem run_nil [Coordinate α] (w : Desk α) : w.run [] = w := rfl

@[simp] theorem run_cons [Coordinate α] (w : Desk α) (e : Event α) (events : List (Event α)) :
    w.run (e :: events) = (w.step e).run events := rfl

theorem run_append [Coordinate α] (w : Desk α) (before after : List (Event α)) :
    w.run (before ++ after) = (w.run before).run after :=
  List.foldl_append

/-- The count of the graph. -/
def generation (w : Desk α) : Nat :=
  w.session.graph.generation

/-! ### Disturbances -/

/-- Whether an event starts an execution, cancels, drops everything or closes the session. -/
def Disturbs (w : Desk α) : Event α → Prop
  | .start => ∃ run, w.session.start.1 = .ok run
  | .close => True
  | .edit e => e.endsRuns = true
  | _ => False

/-- Whether no event of a schedule disturbs, each looked at when it happens. -/
def Undisturbed [Coordinate α] (w : Desk α) : List (Event α) → Prop
  | [] => True
  | e :: events => ¬ w.Disturbs e ∧ (w.step e).Undisturbed events

/-- A session is ready for a run exactly if asking for one begins it. -/
theorem disturbs_start {w : Desk α} : w.Disturbs .start ↔ w.session.start.1.isOk = true := by
  unfold Disturbs
  cases w.session.start.1 <;> simp [Except.isOk, Except.toBool]

instance (w : Desk α) (e : Event α) : Decidable (w.Disturbs e) :=
  match e with
  | .start => decidable_of_iff _ disturbs_start.symm
  | .close => .isTrue trivial
  | .edit e => inferInstanceAs (Decidable (e.endsRuns = true))
  | .resolve .. | .drop .. => .isFalse id

instance decidableUndisturbed [Coordinate α] (w : Desk α) :
    (events : List (Event α)) → Decidable (w.Undisturbed events)
  | [] => .isTrue trivial
  | e :: events =>
    have := decidableUndisturbed (w.step e) events
    inferInstanceAs (Decidable (¬ w.Disturbs e ∧ (w.step e).Undisturbed events))

/-! ### Single steps of a session -/

/-- A start either begins a run under the next count or leaves the session as it was. -/
theorem start_cases (s : Session α) :
    (∃ request, s.start = (.ok ⟨s.graph.begin.1, request⟩, { s with graph := s.graph.begin.2 }) ∧
        s.closed = false) ∨
      ∃ report, s.start = (.error report, s) := by
  unfold Session.start
  by_cases hclosed : s.closed = true
  · exact .inr ⟨_, if_pos hclosed⟩
  · rw [if_neg hclosed]
    cases s.graph.executionRequest with
    | error e => exact .inr ⟨_, rfl⟩
    | ok request => exact .inl ⟨request, rfl, by simpa using hclosed⟩

/-- A run whose ticket is the latest one leaves its outcome. -/
theorem resolve_current {s : Session α} {run : Run} (h : s.graph.isCurrent run.ticket = true)
    (outcome : RunOutcome) :
    s.resolve run outcome = (.ofOutcome outcome, { s with graph := s.graph.recorded outcome }) := by
  unfold Session.resolve
  rw [Graph.finish_of_isCurrent h]
  cases outcome <;> rfl

/-- A run whose ticket is stale leaves nothing. -/
theorem resolve_stale {s : Session α} {run : Run} (h : s.graph.isCurrent run.ticket = false)
    (outcome : RunOutcome) : s.resolve run outcome = (.superseded, s) := by
  unfold Session.resolve
  rw [Graph.finish_of_not_isCurrent h]

/-- Giving a run up does nothing if it is stale. -/
theorem dropRun_stale {s : Session α} {run : Run} (h : s.graph.isCurrent run.ticket = false) :
    s.dropRun run = s := by
  unfold Session.dropRun Graph.abandon
  rw [if_neg (by rw [h]; decide)]

/-- Giving a run up does nothing if no run is shown. -/
theorem dropRun_of_not_executing {s : Session α} (h : s.graph.executing = false) (run : Run) :
    s.dropRun run = s := by
  unfold Session.dropRun Graph.abandon
  by_cases hc : s.graph.isCurrent run.ticket = true
  · rw [if_pos hc, Graph.setExecuting, ← h]
  · rw [if_neg hc]

/-- Giving up a run whose outcome arrived does nothing. -/
theorem dropRun_resolve (s : Session α) (run : Run) (outcome : RunOutcome) :
    (s.resolve run outcome).2.dropRun run = (s.resolve run outcome).2 := by
  cases hc : s.graph.isCurrent run.ticket with
  | true =>
      rw [resolve_current hc]
      exact dropRun_of_not_executing (by cases outcome <;> rfl) run
  | false =>
      rw [resolve_stale hc]
      exact dropRun_stale hc

/-- A run is no longer in flight once it is settled, and the others stay as they are. -/
theorem pending?_settle (w : Desk α) (settled number : Nat) (session : Session α) :
    (w.settle settled session).pending? number =
      if number = settled then none else w.pending? number :=
  join_getElem?_set_none w.runs settled number

/-! ### The count -/

variable [Coordinate α] {w : Desk α}

/-- **An event that disturbs counts one up.** -/
theorem generation_step_of_disturbs {e : Event α} (h : w.Disturbs e) :
    (w.step e).generation = w.generation + 1 := by
  cases e with
  | start =>
      obtain ⟨run, hrun⟩ := h
      rcases start_cases w.session with ⟨request, hstart, -⟩ | ⟨report, hstart⟩
      · simp only [step, hstart]
        rfl
      · rw [hstart] at hrun
        cases hrun
  | resolve number outcome => exact h.elim
  | drop number borrowed => exact h.elim
  | close => rfl
  | edit e =>
      have hedit : e.endsRuns = true := h
      show (w.session.graph.apply e).generation = w.session.graph.generation + 1
      rw [Graph.generation_apply, if_pos hedit]

/-- **Every other event leaves the count.** -/
theorem generation_step_of_not_disturbs {e : Event α} (h : ¬ w.Disturbs e) :
    (w.step e).generation = w.generation := by
  cases e with
  | start =>
      rcases start_cases w.session with ⟨request, hstart, -⟩ | ⟨report, hstart⟩
      · exact (h ⟨_, by rw [hstart]⟩).elim
      · simp only [step, hstart]
  | resolve number outcome =>
      cases hp : w.pending? number with
      | none => simp only [step, hp]
      | some run =>
          -- giving the run up afterwards does nothing, and recording does not count
          simp only [step, hp, dropRun_resolve]
          cases hc : w.session.graph.isCurrent run.ticket with
          | true =>
              rw [resolve_current hc]
              cases outcome <;> rfl
          | false =>
              rw [resolve_stale hc]
              rfl
  | drop number borrowed =>
      cases hp : w.pending? number with
      | none => simp only [step, hp]
      | some run =>
          simp only [step, hp]
          cases borrowed with
          | true => rfl
          | false => exact Graph.generation_abandon run.ticket
  | close => exact (h trivial).elim
  | edit e =>
      have hedit : ¬ e.endsRuns = true := h
      show (w.session.graph.apply e).generation = w.session.graph.generation
      rw [Graph.generation_apply, if_neg hedit, Nat.add_zero]

theorem generation_le_step (w : Desk α) (e : Event α) : w.generation ≤ (w.step e).generation := by
  by_cases h : w.Disturbs e
  · rw [generation_step_of_disturbs h]
    exact Nat.le_succ _
  · exact Nat.le_of_eq (generation_step_of_not_disturbs h).symm

theorem generation_le_run (w : Desk α) (events : List (Event α)) :
    w.generation ≤ (w.run events).generation := by
  induction events generalizing w with
  | nil => exact Nat.le_refl _
  | cons e events ih => exact Nat.le_trans (w.generation_le_step e) (ih _)

/-- **An undisturbed schedule leaves the count.** -/
theorem generation_run_eq {events : List (Event α)} (h : w.Undisturbed events) :
    (w.run events).generation = w.generation := by
  induction events generalizing w with
  | nil => rfl
  | cons e events ih =>
      rw [run_cons, ih h.2]
      exact generation_step_of_not_disturbs h.1

/-- **A disturbed schedule counts up.** -/
theorem generation_run_lt {events : List (Event α)} (h : ¬ w.Undisturbed events) :
    w.generation < (w.run events).generation := by
  induction events generalizing w with
  | nil => exact (h trivial).elim
  | cons e events ih =>
      by_cases he : w.Disturbs e
      · -- the count goes up here, and never comes down again
        have hstep := generation_step_of_disturbs he
        have hrun := (w.step e).generation_le_run events
        rw [run_cons]
        omega
      · have hrest : ¬ (w.step e).Undisturbed events := fun hrest => h ⟨he, hrest⟩
        rw [run_cons, ← generation_step_of_not_disturbs he]
        exact ih hrest

/-! ### Runs in flight -/

/-- **What an event does to a run**: it stays in flight or is settled, or it is the run that is
started, under the next count. -/
theorem pending?_step {e : Event α} {number : Nat} {run : Run}
    (h : (w.step e).pending? number = some run) :
    w.pending? number = some run ∨
      number = w.runs.length ∧ w.session.start.1 = .ok run ∧ e = .start := by
  cases e with
  | start =>
      rcases start_cases w.session with ⟨request, hstart, -⟩ | ⟨report, hstart⟩
      · simp only [step, hstart, pending?] at h
        rcases join_getElem?_concat h with hp | ⟨hnumber, rfl⟩
        · exact .inl hp
        · exact .inr ⟨hnumber, by rw [hstart], rfl⟩
      · simp only [step, hstart] at h
        exact .inl h
  | resolve settled outcome =>
      cases hp : w.pending? settled with
      | none =>
          simp only [step, hp] at h
          exact .inl h
      | some _ =>
          simp only [step, hp, pending?_settle] at h
          split at h
          · cases h
          · exact .inl h
  | drop settled borrowed =>
      cases hp : w.pending? settled with
      | none =>
          simp only [step, hp] at h
          exact .inl h
      | some _ =>
          simp only [step, hp, pending?_settle] at h
          split at h
          · cases h
          · exact .inl h
  | close => exact .inl h
  | edit e => exact .inl h

/-- Numbers are not given out again. -/
theorem length_le_step (w : Desk α) (e : Event α) : w.runs.length ≤ (w.step e).runs.length := by
  cases e with
  | start =>
      rcases start_cases w.session with ⟨request, hstart, -⟩ | ⟨report, hstart⟩
      · simp [step, hstart]
      · simp [step, hstart]
  | resolve number outcome =>
      cases hp : w.pending? number <;> simp [step, hp, settle]
  | drop number borrowed =>
      cases hp : w.pending? number <;> simp [step, hp, settle]
  | close => exact Nat.le_refl _
  | edit e => exact Nat.le_refl _

/-- **A run in flight has been in flight since it was started.** -/
theorem pending_run {events : List (Event α)} {number : Nat} {run : Run}
    (hlt : number < w.runs.length) (h : (w.run events).pending? number = some run) :
    w.pending? number = some run := by
  induction events generalizing w with
  | nil => exact h
  | cons e events ih =>
      have hstep := ih (Nat.lt_of_lt_of_le hlt (w.length_le_step e)) h
      rcases pending?_step hstep with hp | ⟨rfl, -⟩
      · exact hp
      · exact absurd hlt (Nat.lt_irrefl _)

end Desk

end QueryBuilder
