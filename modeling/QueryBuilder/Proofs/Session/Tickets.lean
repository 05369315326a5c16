/-
**What a ticket is good for.**

A ticket is the count of the graph at the time when a run began, and a graph takes an outcome under
every ticket that is still its count.  Starting another run, cancelling and dropping everything
count one up, and from then on all earlier tickets are stale for good.  Nothing else makes a ticket
stale: neither the outcome that came with it, nor giving up its run.  So a ticket that is used twice
in a row is good for two outcomes, and the outcome of a run that was given up is still taken.  How
many outcomes a ticket is good for is up to its holder, until the count goes up.

Main definitions:

* `QueryBuilder.Edit.finishes` — an outcome comes with a ticket;
* `QueryBuilder.Graph.accepts`, `QueryBuilder.Graph.acceptances` — the outcome is taken, and how
  often this happens in a run of edits.

Main results:

* `QueryBuilder.Graph.generation_run_edits` — the count after a run of edits;
* `QueryBuilder.Graph.isCurrent_begin_run` — a ticket is the count of the graph until an edit makes
  runs stale;
* `QueryBuilder.Graph.acceptances_of_stale`, `QueryBuilder.Graph.acceptances_of_current` — how often
  a ticket is good for an outcome;
* `QueryBuilder.Graph.ticket_good_until_stale` — **what a ticket is good for, and until when**.
-/

import QueryBuilder.Proofs.Session.Schedules

set_option autoImplicit false

namespace QueryBuilder

variable {α : Type}

/-- Whether an edit brings an outcome with a ticket. -/
def Edit.finishes (ticket : Ticket) : Edit α → Bool
  | .finish used _ => used == ticket
  | _ => false

/-- An edit that brings an outcome makes no run stale. -/
theorem Edit.finishes_of_endsRuns {e : Edit α} (h : e.endsRuns = true) (ticket : Ticket) :
    e.finishes ticket = false := by
  cases e <;> first | rfl | cases h

namespace Graph

/-! ### Outcomes -/

/-- Whether an edit brings an outcome with a ticket, and the graph takes it. -/
def accepts (g : Graph α) (ticket : Ticket) : Edit α → Bool
  | .finish used outcome => used == ticket && (g.finish used outcome).1
  | _ => false

/-- An outcome is taken if its ticket is the count. -/
theorem accepts_eq (g : Graph α) (ticket : Ticket) (e : Edit α) :
    g.accepts ticket e = (e.finishes ticket && g.isCurrent ticket) := by
  cases e with
  | finish used outcome =>
      by_cases hused : used = ticket
      · subst hused
        cases hcurrent : g.isCurrent used with
        | true => simp [accepts, Edit.finishes, finish_of_isCurrent hcurrent]
        | false => simp [accepts, finish_of_not_isCurrent hcurrent]
      · have hother : (used == ticket) = false := beq_eq_false_iff_ne.2 hused
        rw [accepts, Edit.finishes, hother, Bool.false_and, Bool.false_and]
  | _ => rfl

/-! ### The count -/

variable [Coordinate α]

/-- How often a ticket is good for an outcome in a run of edits. -/
def acceptances (ticket : Ticket) (g : Graph α) : List (Edit α) → Nat
  | [] => 0
  | e :: edits => (if g.accepts ticket e then 1 else 0) + acceptances ticket (g.apply e) edits

/-- **The count goes up by one with every edit that makes runs stale.** -/
theorem generation_run_edits (g : Graph α) (edits : List (Edit α)) :
    (g.run edits).generation = g.generation + edits.countP Edit.endsRuns := by
  induction edits generalizing g with
  | nil => rfl
  | cons e edits ih =>
      rw [run_cons, ih, generation_apply, List.countP_cons]
      omega

/-- **A ticket is the count of the graph until an edit makes runs stale.** -/
theorem isCurrent_begin_run (g : Graph α) (edits : List (Edit α)) :
    (g.begin.2.run edits).isCurrent g.begin.1 = !edits.any Edit.endsRuns := by
  have hcount : (g.begin.2.run edits).generation =
      g.begin.1.generation + edits.countP Edit.endsRuns :=
    generation_run_edits g.begin.2 edits
  rw [isCurrent, hcount]
  cases hany : edits.any Edit.endsRuns with
  | true =>
      have hpos : 0 < edits.countP Edit.endsRuns :=
        List.countP_pos_iff.2 (List.any_eq_true.1 hany)
      simpa using Nat.ne_of_gt hpos
  | false =>
      have hzero : edits.countP Edit.endsRuns = 0 :=
        List.countP_eq_zero.2 (List.any_eq_false.1 hany)
      simp [hzero]

/-! ### Acceptances -/

/-- **A stale ticket is good for nothing any more.** -/
theorem acceptances_of_stale {ticket : Ticket} {g : Graph α}
    (h : ticket.generation < g.generation) (edits : List (Edit α)) :
    acceptances ticket g edits = 0 := by
  induction edits generalizing g with
  | nil => rfl
  | cons e edits ih =>
      have hcurrent : g.isCurrent ticket = false := by
        simpa [isCurrent] using Nat.ne_of_lt h
      have hstale : ticket.generation < (g.apply e).generation := by
        rw [generation_apply]
        omega
      rw [acceptances, ih hstale, accepts_eq, hcurrent, Bool.and_false]
      rfl

/-- **A ticket is good for every outcome that comes with it until it is stale.** -/
theorem acceptances_of_current {ticket : Ticket} {g : Graph α}
    (h : ticket.generation = g.generation) (edits : List (Edit α)) :
    acceptances ticket g edits =
      (edits.takeWhile fun e => !e.endsRuns).countP (Edit.finishes ticket) := by
  induction edits generalizing g with
  | nil => rfl
  | cons e edits ih =>
      have hcurrent : g.isCurrent ticket = true := by simp [isCurrent, h]
      rw [acceptances, accepts_eq, hcurrent, Bool.and_true]
      cases hends : e.endsRuns with
      | true =>
          have hstale : ticket.generation < (g.apply e).generation := by
            rw [generation_apply, if_pos hends]
            omega
          rw [acceptances_of_stale hstale, Edit.finishes_of_endsRuns hends,
            List.takeWhile_cons_of_neg (by simp [hends])]
          rfl
      | false =>
          have hcount : ticket.generation = (g.apply e).generation := by
            rw [generation_apply, hends, h]
            rfl
          rw [ih hcount, List.takeWhile_cons_of_pos (by simp [hends]), List.countP_cons,
            Nat.add_comm]

/-- **A ticket is good until an edit makes runs stale.**  Until then an outcome under it is recorded,
and how often it is good for one is up to those who use it: its own outcome does not use it up, and
giving its run up does not take it back.  From then on an outcome under it changes nothing, and it is
never good for one again.  No later run gets the same ticket. -/
theorem ticket_good_until_stale (g : Graph α) :
    (∀ (between : List (Edit α)) (outcome : RunOutcome),
      (g.begin.2.run between).finish g.begin.1 outcome =
        if between.any Edit.endsRuns then (false, g.begin.2.run between)
        else (true, (g.begin.2.run between).recorded outcome)) ∧
    (∀ edits : List (Edit α), acceptances g.begin.1 g.begin.2 edits =
      (edits.takeWhile fun e => !e.endsRuns).countP (Edit.finishes g.begin.1)) ∧
    (∀ before after : List (Edit α), before.any Edit.endsRuns = true →
      acceptances g.begin.1 (g.begin.2.run before) after = 0) ∧
    ∀ between : List (Edit α),
      g.begin.1.generation < (g.begin.2.run between).begin.1.generation := by
  refine ⟨?_, fun edits => acceptances_of_current rfl edits, ?_, ?_⟩
  · intro between outcome
    have hcurrent := g.isCurrent_begin_run between
    cases hany : between.any Edit.endsRuns with
    | true =>
        rw [hany] at hcurrent
        exact finish_of_not_isCurrent hcurrent outcome
    | false =>
        rw [hany] at hcurrent
        exact finish_of_isCurrent hcurrent outcome
  · intro before after hany
    refine acceptances_of_stale ?_ after
    have hpos : 0 < before.countP Edit.endsRuns :=
      List.countP_pos_iff.2 (List.any_eq_true.1 hany)
    have hcount := generation_run_edits g.begin.2 before
    have hbegin : g.begin.2.generation = g.begin.1.generation := rfl
    omega
  · intro between
    have hcount := generation_run_edits g.begin.2 between
    have hbegin : g.begin.2.generation = g.begin.1.generation := rfl
    have hlater : (g.begin.2.run between).begin.1.generation =
        (g.begin.2.run between).generation + 1 := rfl
    omega

/-- An outcome, and two more after the run was cancelled: one is taken in all, and the others change
nothing. -/
theorem ticket_good_until_stale_sample :
    let ticket := Sample.graph.begin.1
    let cancelled := Sample.graph.begin.2.run [.finish ticket (.error "timeout"), .cancel]
    acceptances ticket Sample.graph.begin.2 [.finish ticket (.error "timeout"), .cancel,
        .finish ticket (.error "late")] = 1 ∧
      cancelled.finish ticket (.error "late") = (false, cancelled) ∧
      [Edit.finish ticket (.error "timeout"), (.cancel : Edit Float)].any Edit.endsRuns = true ∧
      acceptances ticket cancelled [.finish ticket (.error "late")] = 0 := by
  intro ticket cancelled
  obtain ⟨hfinish, hcount, hnever, -⟩ := ticket_good_until_stale Sample.graph
  have hends : [Edit.finish ticket (.error "timeout"), (.cancel : Edit Float)].any
      Edit.endsRuns = true := rfl
  refine ⟨?_, ?_, hends, hnever _ _ hends⟩
  · rw [hcount]
    decide +kernel
  · rw [hfinish, if_pos hends]

/-- A ticket may be good for two outcomes, and for one after its run was given up. -/
theorem ticket_good_again :
    let ticket := Sample.graph.begin.1
    let begun := Sample.graph.begin.2
    acceptances ticket begun [.finish ticket (.error "timeout"), .finish ticket (.error "late")] = 2 ∧
      acceptances ticket (begun.abandon ticket) [.finish ticket (.error "late")] = 1 ∧
      (¬∀ (g : Graph Float) (edits : List (Edit Float)),
        acceptances g.begin.1 g.begin.2 edits ≤ 1) ∧
      ¬∀ (g : Graph Float) (before after : List (Edit Float)),
        acceptances g.begin.1 ((g.begin.2.run before).abandon g.begin.1) after = 0 := by
  intro ticket begun
  have htwice : acceptances ticket begun
      [.finish ticket (.error "timeout"), .finish ticket (.error "late")] = 2 := by decide +kernel
  have hafter : acceptances ticket (begun.abandon ticket) [.finish ticket (.error "late")] = 1 := by
    decide +kernel
  refine ⟨htwice, hafter, ?_, ?_⟩
  · intro h
    have hle := h Sample.graph [.finish ticket (.error "timeout"), .finish ticket (.error "late")]
    rw [htwice] at hle
    exact absurd hle (by decide)
  · intro h
    have hnone := h Sample.graph [] [.finish ticket (.error "late")]
    rw [run_nil, hafter] at hnone
    cases hnone

end Graph

end QueryBuilder
