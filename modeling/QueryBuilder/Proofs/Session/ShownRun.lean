/-
**The flag of a session shows whether a run goes on.**

The graph has a flag that is shown while a query runs.  It is written in many places: a run that is
started sets it, and an outcome that arrives, a run that is dropped, a cancellation, dropping
everything and closing the session put it out.  Several runs may be in flight at once, and only the
latest one may put the flag out.  So the flag is right at every time: it is set exactly while the
run that was started last is in flight and was not cancelled.

This holds as long as the host leaves the flag and the runs to the session, and does not borrow the
graph while a run is dropped.  A flag that was set before the session began stays until the first
event that makes runs stale.

Main definitions:

* `QueryBuilder.Event.Orderly` — events of a session whose host does so;
* `QueryBuilder.Desk.Latest` — the run that was started last is in flight and was not cancelled;
* `QueryBuilder.Desk.Ticketed`, `QueryBuilder.Desk.Flagged` — what runs in flight have to do with
  tickets, and tickets with the flag.

Main results:

* `QueryBuilder.Desk.Ticketed.flagged_step`, `QueryBuilder.Desk.Ticketed.run` — one step, and a
  whole schedule;
* `QueryBuilder.Desk.latest_iff` — the latest run is the one with the latest ticket;
* `QueryBuilder.Desk.executing_iff_latest` — **the flag is set exactly while the latest run goes
  on**.
-/

import Mathlib.Data.List.Induction
import QueryBuilder.Proofs.Session.LatestRun

set_option autoImplicit false

namespace QueryBuilder

variable {α : Type}

/-- An event of a session whose host sets no flag, starts and finishes no runs of its own, and
borrows the graph while no run is dropped. -/
def Event.Orderly : Event α → Prop
  | .drop _ borrowed => borrowed = false
  | .edit e => e.handlesRuns = false
  | _ => True

namespace Desk

/-! ### Tickets -/

/-- In a session that began with a graph, runs in flight have tickets of their own, which are above
the count of that graph. -/
structure Ticketed (g : Graph α) (w : Desk α) : Prop where
  le : g.generation ≤ w.generation
  above : ∀ number run, w.pending? number = some run → g.generation < run.ticket.generation
  issued : w.Issued
  apart : ∀ number number' run run', w.pending? number = some run →
    w.pending? number' = some run' → run.ticket.generation = run'.ticket.generation →
      number = number'

theorem pending?_ofGraph (g : Graph α) (number : Nat) : (ofGraph g).pending? number = none := by
  simp [ofGraph, pending?]

theorem ticketed_ofGraph (g : Graph α) : Ticketed g (ofGraph g) where
  le := Nat.le_refl _
  above number run h := by
    rw [pending?_ofGraph] at h
    cases h
  issued number run h := by
    rw [pending?_ofGraph] at h
    cases h
  apart number number' run run' h := by
    rw [pending?_ofGraph] at h
    cases h

variable [Coordinate α] {g : Graph α} {w : Desk α}

/-- A run in flight was in flight already, or it is the one that is started, under the next
count. -/
theorem ticket_step {e : Event α} {number : Nat} {run : Run}
    (h : (w.step e).pending? number = some run) :
    w.pending? number = some run ∨
      number = w.runs.length ∧ run.ticket.generation = w.generation + 1 ∧ e = .start := by
  rcases pending?_step h with hp | ⟨rfl, hstart, rfl⟩
  · exact .inl hp
  · obtain ⟨started, hstarted, hticket, -⟩ := pending?_start ⟨run, hstart⟩
    rw [h, Option.some.injEq] at hstarted
    rw [hstarted, hticket]
    exact .inr ⟨rfl, generation_step_of_disturbs ⟨run, hstart⟩, rfl⟩

/-- **Every event leaves runs in flight with tickets of their own.** -/
theorem Ticketed.step (h : Ticketed g w) (e : Event α) : Ticketed g (w.step e) where
  le := Nat.le_trans h.le (w.generation_le_step e)
  above number run hrun := by
    rcases ticket_step hrun with hp | ⟨-, hticket, -⟩
    · exact h.above number run hp
    · rw [hticket]
      exact Nat.lt_succ_of_le h.le
  issued := h.issued.step e
  apart number number' run run' hrun hrun' heq := by
    rcases ticket_step hrun with hp | ⟨rfl, hticket, -⟩ <;>
      rcases ticket_step hrun' with hp' | ⟨rfl, hticket', -⟩
    · exact h.apart number number' run run' hp hp' heq
    · have hle := h.issued number run hp
      omega
    · have hle := h.issued number' run' hp'
      omega
    · rfl

/-! ### What the flag has to do with tickets -/

/-- The flag of the graph. -/
def executing (w : Desk α) : Bool :=
  w.session.graph.executing

/-- A run is in flight under the latest ticket. -/
def Holds (w : Desk α) (number : Nat) : Prop :=
  ∃ run, w.pending? number = some run ∧ run.ticket.generation = w.generation

/-- The flag is set if a run is in flight under the latest ticket, and otherwise only if it was set
in the beginning, and the count is still that of the beginning. -/
def Flagged (g : Graph α) (w : Desk α) : Prop :=
  w.executing = true ↔
    (∃ number, w.Holds number) ∨ w.generation = g.generation ∧ g.executing = true

omit [Coordinate α] in
theorem flagged_ofGraph (g : Graph α) : Flagged g (ofGraph g) := by
  constructor
  · intro h
    exact .inr ⟨rfl, h⟩
  · rintro (⟨number, run, h, -⟩ | ⟨-, h⟩)
    · rw [pending?_ofGraph] at h
      cases h
    · exact h

/-- A run that is started sets the flag. -/
theorem flagged_start (h : w.Disturbs .start) : Flagged g (w.step .start) := by
  obtain ⟨run, hrun, hticket, -⟩ := pending?_start h
  refine iff_of_true ?_ (.inl ⟨_, run, hrun, hticket⟩)
  obtain ⟨started, hstarted⟩ := h
  rcases start_cases w.session with ⟨request, hstart, -⟩ | ⟨report, hstart⟩
  · simp only [step, hstart]
    rfl
  · rw [hstart] at hstarted
    cases hstarted

/-- An event that makes all runs stale, and starts none, puts the flag out. -/
theorem Ticketed.flagged_of_disturbs (h : Ticketed g w) {e : Event α} (he : w.Disturbs e)
    (hne : e ≠ .start) (hout : (w.step e).executing = false) : Flagged g (w.step e) := by
  have hcount := generation_step_of_disturbs he
  refine iff_of_false (by rw [hout]; decide) ?_
  rintro (⟨number, run, hrun, hticket⟩ | ⟨heq, -⟩)
  · rcases ticket_step hrun with hp | ⟨-, -, rfl⟩
    · have hle := h.issued number run hp
      omega
    · exact hne rfl
  · have hle := h.le
    omega

omit [Coordinate α] in
/-- A ticket is current if it is the latest one. -/
theorem isCurrent_iff_generation {ticket : Ticket} :
    w.session.graph.isCurrent ticket = true ↔ ticket.generation = w.generation :=
  beq_iff_eq

omit [Coordinate α] in
/-- A run is over.  If it had the latest ticket, the flag goes out, because no other run has this
ticket; if not, the session is left as it was. -/
theorem Ticketed.flagged_settle (h : Ticketed g w) (hw : Flagged g w) {number : Nat} {run : Run}
    (hrun : w.pending? number = some run) {session : Session α}
    (hcount : session.graph.generation = w.generation)
    (hcurrent : w.session.graph.isCurrent run.ticket = true → session.graph.executing = false)
    (hstale : w.session.graph.isCurrent run.ticket = false → session = w.session) :
    Flagged g (w.settle number session) := by
  have hgeneration : (w.settle number session).generation = w.generation := hcount
  cases hc : w.session.graph.isCurrent run.ticket with
  | true =>
      have hticket := isCurrent_iff_generation.1 hc
      have hout : (w.settle number session).executing = false := hcurrent hc
      refine iff_of_false (by rw [hout]; decide) ?_
      rintro (⟨number', run', hrun', hticket'⟩ | ⟨heq, -⟩)
      · rw [pending?_settle] at hrun'
        split at hrun'
        · cases hrun'
        · next hne =>
            rw [hgeneration, ← hticket] at hticket'
            exact hne (h.apart number' number run' run hrun' hrun hticket')
      · have hlt := h.above number run hrun
        omega
  | false =>
      have hne : run.ticket.generation ≠ w.generation := fun heq => by
        rw [isCurrent_iff_generation.2 heq] at hc
        cases hc
      have hsame : (w.settle number session).executing = w.executing :=
        congrArg (fun s => s.graph.executing) (hstale hc)
      have hholds : ∀ number', (w.settle number session).Holds number' ↔ w.Holds number' := by
        intro number'
        unfold Holds
        rw [pending?_settle, hgeneration]
        by_cases heq : number' = number
        · subst heq
          simp [hrun, hne]
        · rw [if_neg heq]
      unfold Flagged at hw ⊢
      simp only [hsame, hholds, hgeneration]
      exact hw

/-- **Every event in a session with an orderly host leaves the flag right.** -/
theorem Ticketed.flagged_step (h : Ticketed g w) (hw : Flagged g w) {e : Event α}
    (he : e.Orderly) : Flagged g (w.step e) := by
  cases e with
  | start =>
      by_cases hd : w.Disturbs .start
      · exact flagged_start hd
      · rcases start_cases w.session with ⟨request, hstart, -⟩ | ⟨report, hstart⟩
        · exact absurd ⟨_, by rw [hstart]⟩ hd
        · simp only [Desk.step, hstart]
          exact hw
  | resolve number outcome =>
      cases hp : w.pending? number with
      | none =>
          simp only [Desk.step, hp]
          exact hw
      | some run =>
          simp only [Desk.step, hp, dropRun_resolve]
          refine h.flagged_settle hw hp ?_ ?_ ?_
          · cases hc : w.session.graph.isCurrent run.ticket with
            | true =>
                rw [resolve_current hc]
                cases outcome <;> rfl
            | false =>
                rw [resolve_stale hc]
                rfl
          · intro hc
            rw [resolve_current hc]
            cases outcome <;> rfl
          · intro hc
            rw [resolve_stale hc]
  | drop number borrowed =>
      cases hp : w.pending? number with
      | none =>
          simp only [Desk.step, hp]
          exact hw
      | some run =>
          have hfree : borrowed = false := he
          simp only [Desk.step, hp, hfree, Bool.false_eq_true, if_false]
          refine h.flagged_settle hw hp (Graph.generation_abandon run.ticket) ?_ ?_
          · intro hc
            show (w.session.graph.abandon run.ticket).executing = false
            rw [Graph.abandon, if_pos hc]
            rfl
          · exact dropRun_stale
  | close => exact h.flagged_of_disturbs trivial (by simp) rfl
  | edit e =>
      have hexecuting : (w.step (.edit e)).executing =
          if e.endsRuns then false else w.executing := w.session.graph.executing_apply he
      by_cases hd : w.Disturbs (.edit e)
      · have hends : e.endsRuns = true := hd
        exact h.flagged_of_disturbs hd (by simp) (by rw [hexecuting, if_pos hends])
      · have hends : ¬ e.endsRuns = true := hd
        -- the runs are the same, and so are the count and the flag
        unfold Flagged Holds at hw ⊢
        rw [hexecuting, if_neg hends, generation_step_of_not_disturbs hd]
        exact hw

/-- **Every schedule with an orderly host leaves the flag right.** -/
theorem Ticketed.run (h : Ticketed g w) (hw : Flagged g w) {events : List (Event α)}
    (hevents : ∀ e ∈ events, e.Orderly) :
    Ticketed g (w.run events) ∧ Flagged g (w.run events) := by
  induction events generalizing w with
  | nil => exact ⟨h, hw⟩
  | cons e events ih =>
      obtain ⟨he, hrest⟩ := List.forall_mem_cons.1 hevents
      exact ih (h.step e) (h.flagged_step hw he) hrest

/-! ### The latest run -/

/-- After a schedule, a run is in flight that was started at some point of it, and since then no
other execution began, nothing was cancelled or dropped, and the session was not closed. -/
def Latest (g : Graph α) (events : List (Event α)) (number : Nat) : Prop :=
  ∃ before between, events = before ++ .start :: between ∧ InFlight g before between number ∧
    ((after g before).step .start).Undisturbed between

/-- A run in flight was started at some point of the schedule.  The induction is on the schedule
from its end: the last event started the run, or left it in flight. -/
theorem exists_inFlight {events : List (Event α)} {number : Nat} {run : Run}
    (h : (after g events).pending? number = some run) :
    ∃ before between, events = before ++ .start :: between ∧ InFlight g before between number := by
  induction events using List.reverseRecOn with
  | nil =>
      rw [after, run_nil, pending?_ofGraph] at h
      cases h
  | append_singleton events e ih =>
      have hlast : after g (events ++ [e]) = (after g events).step e := run_append ..
      have hpending : ((after g (events ++ [e])).pending? number).isSome = true := by
        rw [h]
        rfl
      rw [hlast] at h
      rcases pending?_step h with hp | ⟨hnumber, hstart, rfl⟩
      · obtain ⟨before, between, rfl, hflight⟩ := ih hp
        refine ⟨before, between ++ [e], by simp, hflight.started, hflight.number_eq, ?_⟩
        simpa using hpending
      · exact ⟨events, [], rfl, ⟨run, hstart⟩, hnumber, hpending⟩

/-- **The latest run is the one in flight under the latest ticket.** -/
theorem latest_iff {events : List (Event α)} {number : Nat} :
    Latest g events number ↔ (after g events).Holds number := by
  constructor
  · rintro ⟨before, between, rfl, hflight, hundisturbed⟩
    obtain ⟨run, hrun, hcurrent⟩ := hflight.isCurrent_iff
    exact ⟨run, hrun, isCurrent_iff_generation.1 (hcurrent.2 hundisturbed)⟩
  · rintro ⟨run, hrun, hticket⟩
    obtain ⟨before, between, rfl, hflight⟩ := exists_inFlight hrun
    obtain ⟨run', hrun', hcurrent⟩ := hflight.isCurrent_iff
    rw [hrun, Option.some.injEq] at hrun'
    subst hrun'
    exact ⟨before, between, rfl, hflight, hcurrent.1 (isCurrent_iff_generation.2 hticket)⟩

omit [Coordinate α] in
/-- No run is in flight if none of the list is. -/
theorem pending?_eq_none_of_all (h : w.runs.all Option.isNone = true) (number : Nat) :
    w.pending? number = none := by
  unfold pending?
  cases hrun : w.runs[number]? with
  | none => rfl
  | some run =>
      rw [Option.isNone_iff_eq_none.1 (List.all_eq_true.1 h run (List.mem_of_getElem? hrun))]
      rfl

/-- The count is that of the beginning exactly if the whole schedule is undisturbed. -/
theorem generation_after_eq_iff (g : Graph α) (events : List (Event α)) :
    (after g events).generation = g.generation ↔ (ofGraph g).Undisturbed events := by
  constructor
  · intro heq
    by_contra hnot
    exact absurd heq.symm (Nat.ne_of_lt (generation_run_lt hnot))
  · exact generation_run_eq

/-- A run that is not the latest one leaves no trace: its outcome is dropped, and so is it. -/
theorem session_step_of_not_latest {events : List (Event α)} {number : Nat}
    (h : ¬ Latest g events number) {e : Event α}
    (he : (∃ outcome, e = .resolve number outcome) ∨ ∃ borrowed, e = .drop number borrowed) :
    ((after g events).step e).session = (after g events).session := by
  cases hp : (after g events).pending? number with
  | none =>
      rcases he with ⟨outcome, rfl⟩ | ⟨borrowed, rfl⟩ <;> simp only [step, hp]
  | some run =>
      have hstale : (after g events).session.graph.isCurrent run.ticket = false := by
        rw [Bool.eq_false_iff]
        intro hc
        exact h (latest_iff.2 ⟨run, hp, isCurrent_iff_generation.1 hc⟩)
      rcases he with ⟨outcome, rfl⟩ | ⟨borrowed, rfl⟩
      · exact (step_resolve_stale hp hstale outcome).2
      · simp only [step, hp, dropRun_stale hstale, ite_self]
        rfl

/-- **The flag is set exactly while the latest run goes on.**  A run that is not the latest one
touches nothing when its outcome arrives or it is dropped, and the flag is out when no run is in
flight.  (A flag that was set before the session began is not put out by any run of the session, but
by the first event that makes runs stale.) -/
theorem executing_iff_latest (g : Graph α) {events : List (Event α)}
    (hevents : ∀ e ∈ events, e.Orderly) :
    ((after g events).executing = true ↔
      (∃ number, Latest g events number) ∨
        (ofGraph g).Undisturbed events ∧ g.executing = true) ∧
    (∀ number, ¬ Latest g events number →
      (∀ outcome, ((after g events).step (.resolve number outcome)).session =
        (after g events).session) ∧
      ∀ borrowed, ((after g events).step (.drop number borrowed)).session =
        (after g events).session) ∧
    (g.executing = false → (∀ number, (after g events).pending? number = none) →
      (after g events).executing = false) := by
  have hflag : (after g events).executing = true ↔
      (∃ number, Latest g events number) ∨
        (ofGraph g).Undisturbed events ∧ g.executing = true := by
    simp only [latest_iff, ← generation_after_eq_iff]
    exact ((ticketed_ofGraph g).run (flagged_ofGraph g) hevents).2
  refine ⟨hflag, fun number h => ?_, fun hg hnone => ?_⟩
  · exact ⟨fun outcome => session_step_of_not_latest h (.inl ⟨outcome, rfl⟩),
      fun borrowed => session_step_of_not_latest h (.inr ⟨borrowed, rfl⟩)⟩
  · rw [Bool.eq_false_iff]
    intro hset
    rcases hflag.1 hset with ⟨number, hlatest⟩ | ⟨-, hbegan⟩
    · obtain ⟨run, hrun, -⟩ := latest_iff.1 hlatest
      rw [hnone number] at hrun
      cases hrun
    · rw [hg] at hbegan
      cases hbegan

/-- The outcome of a run arrives after the next one was started, which then goes on until it is
dropped. -/
theorem executing_iff_latest_sample :
    (after Sample.graph [.start, .edit (.removeFilter 7), .start,
      .resolve 0 (.error "late")]).executing = true ∧
    (after Sample.graph [.start, .edit (.removeFilter 7), .start, .resolve 0 (.error "late"),
      .drop 1 false]).executing = false := by
  have hearly : ∀ e ∈ [Event.start, .edit (.removeFilter 7), .start, .resolve 0 (.error "late")],
      (e : Event Float).Orderly := by
    simp [Event.Orderly, Edit.handlesRuns]
  have hlate : ∀ e ∈ [Event.start, .edit (.removeFilter 7), .start, .resolve 0 (.error "late"),
      .drop 1 false], (e : Event Float).Orderly := by
    simp [Event.Orderly, Edit.handlesRuns]
  constructor
  · exact (executing_iff_latest _ hearly).1.2 (.inl ⟨1, [.start, .edit (.removeFilter 7)],
      [.resolve 0 (.error "late")], rfl,
      ⟨by decide +kernel, by decide +kernel, by decide +kernel⟩, by decide +kernel⟩)
  · refine (executing_iff_latest _ hlate).2.2 (by decide +kernel) fun number => ?_
    exact pending?_eq_none_of_all (by decide +kernel) number

end Desk

end QueryBuilder
