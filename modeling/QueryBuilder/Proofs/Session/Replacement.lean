/-
**A graph that takes the place of another one under a run.**

Whoever holds the session may put another graph in the place of the one on which a run was started,
for example a loaded one.  A run knows its graph by nothing but the ticket, and tickets are counted
in each graph by itself; a loaded graph starts to count from zero.  So the session cannot tell the
run of a graph that is gone from a run of the new graph with the same number.  The outcome of the old
run is dropped, and nothing happens to the new graph, if the count of the new graph differs from the
ticket; if the count has come to be the ticket again, then the outcome is recorded on a graph to
which it does not belong.

Main definitions:

* `QueryBuilder.HostEvent` — an event of a session, or the graph being replaced;
* `QueryBuilder.Desk.hostStep`, `QueryBuilder.Desk.hostRun` — a session after such an event, and after
  a list of them;
* `QueryBuilder.Desk.disturbances` — how many events of a schedule make runs stale;
* `QueryBuilder.Desk.carriedOver` — a session whose graph was replaced while a run was in flight.

Main results:

* `QueryBuilder.Desk.generation_run` — the count after a schedule;
* `QueryBuilder.Desk.pending_hostRun` — a run in flight outlives its graph;
* `QueryBuilder.Desk.run_of_replaced_graph` — **what becomes of a run whose graph is gone**;
* `QueryBuilder.Desk.run_of_replaced_graph_recorded` — it may be recorded on the new graph.
-/

import QueryBuilder.Proofs.Session.LatestRun

set_option autoImplicit false

namespace QueryBuilder

variable {α : Type}

/-! ### Replaced graphs -/

/-- What happens to a session in the hands of its host. -/
inductive HostEvent (α : Type) where
  | event (e : Event α)
  /-- The graph is replaced by another one. -/
  | replace (g : Graph α)

namespace Desk

/-- A session with another graph; it keeps its runs, and stays closed if it is. -/
def withGraph (w : Desk α) (g : Graph α) : Desk α :=
  { w with session := { w.session with graph := g } }

variable [Coordinate α]

/-- A session after an event in the hands of its host. -/
def hostStep (w : Desk α) : HostEvent α → Desk α
  | .event e => w.step e
  | .replace g => w.withGraph g

/-- A session after a list of such events, the first of which comes first. -/
def hostRun (w : Desk α) (events : List (HostEvent α)) : Desk α :=
  events.foldl hostStep w

/-! ### The count -/

/-- How many events of a schedule make runs stale, each looked at when it happens. -/
def disturbances (w : Desk α) : List (Event α) → Nat
  | [] => 0
  | e :: events => (if w.Disturbs e then 1 else 0) + (w.step e).disturbances events

/-- **The count goes up by one with every event that makes runs stale.** -/
theorem generation_run (w : Desk α) (events : List (Event α)) :
    (w.run events).generation = w.generation + w.disturbances events := by
  induction events generalizing w with
  | nil => rfl
  | cons e events ih =>
      rw [run_cons, ih, disturbances]
      by_cases he : w.Disturbs e
      · rw [generation_step_of_disturbs he, if_pos he]
        omega
      · rw [generation_step_of_not_disturbs he, if_neg he]
        omega

/-! ### Runs that outlive their graph -/

/-- Numbers of runs are not given out again, whatever becomes of the graph. -/
theorem length_le_hostStep (w : Desk α) (e : HostEvent α) :
    w.runs.length ≤ (w.hostStep e).runs.length := by
  cases e with
  | event e => exact w.length_le_step e
  | replace g => exact Nat.le_refl _

/-- **A run in flight has been in flight since it was started**, though its graph may be gone. -/
theorem pending_hostRun {w : Desk α} {events : List (HostEvent α)} {number : Nat} {run : Run}
    (hlt : number < w.runs.length) (h : (w.hostRun events).pending? number = some run) :
    w.pending? number = some run := by
  induction events generalizing w with
  | nil => exact h
  | cons e events ih =>
      have hstep := ih (Nat.lt_of_lt_of_le hlt (w.length_le_hostStep e)) h
      cases e with
      | event e =>
          rcases pending?_step hstep with hp | ⟨rfl, -⟩
          · exact hp
          · exact absurd hlt (Nat.lt_irrefl _)
      | replace g => exact hstep

theorem length_le_hostRun (w : Desk α) (events : List (HostEvent α)) :
    w.runs.length ≤ (w.hostRun events).runs.length := by
  induction events generalizing w with
  | nil => exact Nat.le_refl _
  | cons e events ih => exact Nat.le_trans (w.length_le_hostStep e) (ih _)

/-- A run is started, and later the graph is replaced, for the last time before a schedule. -/
def carriedOver (w : Desk α) (between : List (HostEvent α)) (g : Graph α) (since : List (Event α)) :
    Desk α :=
  (((w.step .start).hostRun between).withGraph g).run since

/-- The ticket of a run whose graph is gone is the one that it got when it was started. -/
theorem pending?_carriedOver {w : Desk α} {between : List (HostEvent α)} {g : Graph α}
    {since : List (Event α)} (hstart : w.Disturbs .start)
    (hpending : ((w.carriedOver between g since).pending? w.runs.length).isSome = true) :
    ∃ run, (w.carriedOver between g since).pending? w.runs.length = some run ∧
      run.ticket.generation = w.generation + 1 := by
  obtain ⟨run, hrun⟩ := Option.isSome_iff_exists.1 hpending
  obtain ⟨started, hstarted, hticket, hlt⟩ := pending?_start hstart
  refine ⟨run, hrun, ?_⟩
  have hltBetween : w.runs.length < (((w.step .start).hostRun between).withGraph g).runs.length :=
    Nat.lt_of_lt_of_le hlt (length_le_hostRun _ between)
  -- back over the schedule, over the new graph, and over what came before it
  have hreplaced := pending_run hltBetween hrun
  have hbegun := pending_hostRun hlt hreplaced
  rw [hstarted, Option.some.injEq] at hbegun
  rw [← hbegun, hticket, generation_step_of_disturbs hstart]

/-- **What becomes of a run whose graph is gone.**  A run was started in any session, its graph was
replaced, and a schedule followed.  The outcome is recorded on the new graph if the count with which
the new graph came, and the events since that make runs stale, add up to the ticket of the run.
Otherwise the run is superseded, and its outcome changes nothing. -/
theorem run_of_replaced_graph {w : Desk α} {between : List (HostEvent α)} {g : Graph α}
    {since : List (Event α)} (hstart : w.Disturbs .start)
    (hpending : ((w.carriedOver between g since).pending? w.runs.length).isSome = true)
    (outcome : RunOutcome) :
    (g.generation + (((w.step .start).hostRun between).withGraph g).disturbances since =
        w.generation + 1 →
      (w.carriedOver between g since).report? w.runs.length outcome = some (.ofOutcome outcome) ∧
        ((w.carriedOver between g since).step (.resolve w.runs.length outcome)).session.graph =
          (w.carriedOver between g since).session.graph.recorded outcome) ∧
      (g.generation + (((w.step .start).hostRun between).withGraph g).disturbances since ≠
          w.generation + 1 →
        (w.carriedOver between g since).report? w.runs.length outcome = some .superseded ∧
          ((w.carriedOver between g since).step (.resolve w.runs.length outcome)).session =
            (w.carriedOver between g since).session) := by
  obtain ⟨run, hrun, hticket⟩ := pending?_carriedOver hstart hpending
  have hcount : (w.carriedOver between g since).session.graph.generation =
      g.generation + (((w.step .start).hostRun between).withGraph g).disturbances since :=
    generation_run _ since
  have hcurrent : (w.carriedOver between g since).session.graph.isCurrent run.ticket = true ↔
      g.generation + (((w.step .start).hostRun between).withGraph g).disturbances since =
        w.generation + 1 := by
    rw [Graph.isCurrent, beq_iff_eq, hcount, hticket]
    exact eq_comm
  constructor
  · intro heq
    exact step_resolve_current hrun (hcurrent.2 heq) outcome
  · intro hne
    exact step_resolve_stale hrun (Bool.eq_false_iff.2 fun hc => hne (hcurrent.1 hc)) outcome

/-- A loaded graph takes the place of the first one.  The old run is superseded as long as no run is
started on the new graph, and again after a second one. -/
theorem run_of_replaced_graph_sample :
    let loaded := Graph.ofDiagram Sample.graph.toDiagram .standard
    let desk := ofGraph Sample.graph
    (desk.Disturbs .start ∧ ((desk.carriedOver [] loaded []).pending? 0).isSome = true ∧
      (desk.carriedOver [] loaded []).report? 0 (.error "late") = some .superseded) ∧
    ((desk.carriedOver [] loaded [.start, .start]).pending? 0).isSome = true ∧
      (desk.carriedOver [] loaded [.start, .start]).report? 0 (.error "late") =
        some .superseded := by
  intro loaded desk
  have hstart : desk.Disturbs .start := by decide +kernel
  have hnone : ((desk.carriedOver [] loaded []).pending? 0).isSome = true := by decide +kernel
  have htwo : ((desk.carriedOver [] loaded [.start, .start]).pending? 0).isSome = true := by
    decide +kernel
  exact ⟨⟨hstart, hnone, ((run_of_replaced_graph hstart hnone _).2 (by decide +kernel)).1⟩,
    htwo, ((run_of_replaced_graph hstart htwo _).2 (by decide +kernel)).1⟩

/-- **A run may be recorded on a graph on which it was not started.**  A loaded graph takes the place
of the first one, and a run is started on it, which gets the ticket of the old run.  Then the failure
of the old run is reported as its own, although the new graph never saw it begin. -/
theorem run_of_replaced_graph_recorded :
    ¬ ∀ (w : Desk Float) (between : List (HostEvent Float)) (g : Graph Float)
      (since : List (Event Float)) (outcome : RunOutcome), w.Disturbs .start →
        ((w.carriedOver between g since).pending? w.runs.length).isSome = true →
          (w.carriedOver between g since).report? w.runs.length outcome = some .superseded ∧
            ((w.carriedOver between g since).step (.resolve w.runs.length outcome)).session.graph =
              (w.carriedOver between g since).session.graph := by
  intro hclaim
  have hreport := (hclaim (ofGraph Sample.graph) [] (.ofDiagram Sample.graph.toDiagram .standard)
    [.start] (.error "late") (by decide +kernel) (by decide +kernel)).1
  have hrecorded : ((ofGraph Sample.graph).carriedOver []
      (.ofDiagram Sample.graph.toDiagram .standard) [.start]).report? 0 (.error "late") =
        some (.failed "late") := by
    decide +kernel
  rw [show (ofGraph Sample.graph).runs.length = 0 from rfl, hrecorded] at hreport
  cases hreport

end Desk

end QueryBuilder
