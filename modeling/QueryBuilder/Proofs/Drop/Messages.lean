/-
**Which message is shown after drops.**

A graph shows one message.  A drop that is refused puts its reason there.  A drop that places a
table takes the message away, because placing tables does so.  Every other drop leaves the message
of the graph, and so does a drop that adds or moves a column or joins two tables: it succeeds, and
the reason of an earlier refusal stays in view.

So the message after any number of drops is that of the last one that placed a table or was refused.
If every success took the message away, it would be that of the last drop that was not ignored.  The
two differ if this drop was about columns or joins and an earlier reason is still in view.

Main definitions:

* `QueryBuilder.CanvasAct`, `QueryBuilder.Graph.act` — drops of payloads and texts, and fields that
  are chosen by other means;
* `QueryBuilder.Graph.perform`, `QueryBuilder.Graph.reports` — a graph after several acts, and what
  came of each of them;
* `QueryBuilder.DropOutcome.message?`, `QueryBuilder.DropOutcome.dueMessage?` — the message that an
  outcome leaves, and the one that it would leave if every success took the message away.

Main results:

* `QueryBuilder.Graph.Tells.error_eq` — the message after a drop, told from its outcome;
* `QueryBuilder.Graph.error_perform` — the message after several acts is the last one that any of
  them left;
* `QueryBuilder.Graph.message_after_acts` — **which message is shown, and when it is the due one**.
-/

import Mathlib.Data.List.Induction
import QueryBuilder.Proofs.Drop.Outcomes

set_option autoImplicit false

namespace QueryBuilder

/-! ### Outcomes and messages -/

namespace DropOutcome

/-- The message that an outcome leaves in the graph, if it leaves one: the place is cleared when a
table is placed. -/
def message? : DropOutcome → Option (Option String)
  | .tableAdded _ => some none
  | .rejected message => some (some message)
  | _ => none

/-- The message that an outcome would leave if every success cleared the place. -/
def dueMessage? : DropOutcome → Option (Option String)
  | .tableAdded _ | .columnAdded _ | .columnMoved .. | .joinAdded _ => some none
  | .rejected message => some (some message)
  | .ignored | .joinDraft .. => none

/-- A column was added or moved, or two tables were joined. -/
def isQuietSuccess : DropOutcome → Bool
  | .columnAdded _ | .columnMoved .. | .joinAdded _ => true
  | _ => false

/-- The two differ for columns and joins only, which should clear the place and leave it. -/
theorem message?_eq (o : DropOutcome) :
    o.message? = if o.isQuietSuccess then none else o.dueMessage? := by
  cases o <;> rfl

theorem dueMessage?_of_isQuietSuccess {o : DropOutcome} (h : o.isQuietSuccess = true) :
    o.dueMessage? = some none := by
  cases o <;> first | rfl | cases h

/-- The last of several outcomes that is neither ignored nor left to the user. -/
def lastActed (outcomes : List DropOutcome) : Option DropOutcome :=
  (outcomes.filter fun o => o.dueMessage?.isSome).getLast?

theorem lastActed_append_of_isSome {o : DropOutcome} (h : o.dueMessage?.isSome = true)
    (outcomes : List DropOutcome) : lastActed (outcomes ++ [o]) = some o := by
  simp [lastActed, List.filter_append, h]

theorem lastActed_append_of_eq_none {o : DropOutcome} (h : o.dueMessage? = none)
    (outcomes : List DropOutcome) : lastActed (outcomes ++ [o]) = lastActed outcomes := by
  simp [lastActed, List.filter_append, h]

end DropOutcome

/-- Something that the user does with a pointer. -/
inductive CanvasAct where
  | drop (payload : Payload) (target : Target)
  | dropText (text : String) (target : Target)
  /-- A field is chosen by other means than a drop. -/
  | activate (drag : FieldDrag)
  deriving DecidableEq, Repr

namespace Graph

variable {α : Type} [Coordinate α]

/-- What comes of an act, with a reader of texts that has words for those it cannot read. -/
def act (g : Graph α) (wording : Json.Wording) : CanvasAct → DropOutcome × Graph α
  | .drop payload target => g.drop payload target
  | .dropText text target => g.dropText wording text target
  | .activate drag => g.activate drag

/-- The graph after several acts. -/
def perform (g : Graph α) (wording : Json.Wording) (acts : List CanvasAct) : Graph α :=
  acts.foldl (fun g a => (g.act wording a).2) g

/-- What comes of each of several acts. -/
def reports (g : Graph α) (wording : Json.Wording) : List CanvasAct → List DropOutcome
  | [] => []
  | a :: acts => (g.act wording a).1 :: (g.act wording a).2.reports wording acts

/-! ### Edits and messages -/

variable {g g' : Graph α}

/-- A table that is placed clears the message. -/
theorem error_of_addTable {t : NewTable} {id : Nat} (h : g.addTable t = (.ok id, g')) :
    g'.error = none := by
  rw [addTable_eq] at h
  rcases g.allOrNothingShown_cases _ with ⟨e, -, ha⟩ | ⟨_, _, hok, ha⟩
  · rw [ha] at h
    cases h
  · rw [ha] at h
    cases h
    obtain ⟨_, -, hok⟩ := bind_eq_ok.1 hok
    obtain ⟨_, -, hok⟩ := bind_eq_ok.1 hok
    cases hok
    rfl

omit [Coordinate α] in
/-- An edit that shows nothing leaves the message, if it does so where it applies. -/
theorem error_of_allOrNothing {β : Type} {r : Except GraphError (β × Graph α)} {b : β}
    (hr : ∀ b g', r = .ok (b, g') → g'.error = g.error) (h : g.allOrNothing r = (.ok b, g')) :
    g'.error = g.error := by
  have hkept := allOrNothing_preserves (P := fun g' => g'.error = g.error) rfl hr
  rw [h] at hkept
  exact hkept

omit [Coordinate α] in
theorem error_of_addColumn {table : Nat} {field : Int} {id : Nat}
    (h : g.addColumn table field = (.ok id, g')) : g'.error = g.error := by
  rw [addColumn_eq] at h
  refine error_of_allOrNothing (fun _ _ hok => ?_) h
  obtain ⟨_, -, hok⟩ := bind_eq_ok.1 hok
  obtain ⟨_, -, hok⟩ := bind_eq_ok.1 hok
  cases hok
  rfl

omit [Coordinate α] in
theorem error_of_reorderColumns {src dst : Nat} (h : g.reorderColumns src dst = (.ok (), g')) :
    g'.error = g.error := by
  rw [reorderColumns_eq] at h
  refine error_of_allOrNothing (fun _ _ hok => ?_) h
  split at hok
  · cases hok
  · split at hok <;> cases hok
    rfl

omit [Coordinate α] in
theorem error_of_addJoin {l : Link} {id : Nat} (h : g.addJoin l = (.ok id, g')) :
    g'.error = g.error := by
  rw [addJoin_eq] at h
  refine error_of_allOrNothing (fun _ _ hok => ?_) h
  obtain ⟨_, -, hok⟩ := bind_eq_ok.1 hok
  cases hok
  rfl

/-! ### One act -/

/-- **The message after a drop is told from its outcome.** -/
theorem Tells.error_eq {payload : Payload} {target : Target} {o : DropOutcome}
    (h : g.Tells payload target o g') : g'.error = o.message?.getD g.error := by
  cases h with
  | unfit h => rfl
  | tableAdded ht h => exact error_of_addTable h
  | columnAdded h => exact error_of_addColumn h
  | columnMoved hsrc hdst hne h => exact error_of_reorderColumns h
  | columnStays h => rfl
  | joinAdded hs ht hkeys h => exact error_of_addJoin h
  | joinDraft hs ht h => rfl
  | unlinked h => rfl
  | rejected h => rfl

theorem error_act (g : Graph α) (wording : Json.Wording) (a : CanvasAct) :
    (g.act wording a).2.error = (g.act wording a).1.message?.getD g.error := by
  cases a with
  | drop payload target => exact (g.tells_drop payload target).error_eq
  | activate drag => exact (g.tells_activate drag).error_eq
  | dropText text target =>
      cases htext : Payload.ofText wording text with
      | error e =>
          rw [act, dropText, htext]
          rfl
      | ok payload =>
          rw [act, dropText, htext]
          exact (g.tells_drop payload target).error_eq

/-- **The message is the due one unless a column or a join leaves an earlier one in view.** -/
theorem error_act_due_iff (g : Graph α) (wording : Json.Wording) (a : CanvasAct) :
    (g.act wording a).2.error = (g.act wording a).1.dueMessage?.getD g.error ↔
      ((g.act wording a).1.isQuietSuccess = true → (g.act wording a).2.error = none) := by
  cases hquiet : (g.act wording a).1.isQuietSuccess with
  | true => simp [DropOutcome.dueMessage?_of_isQuietSuccess hquiet]
  | false => simp [error_act, DropOutcome.message?_eq, hquiet]

/-! ### Several acts -/

/-- **The message after several acts is the last one that any of them left.** -/
theorem error_perform (g : Graph α) (wording : Json.Wording) (acts : List CanvasAct) :
    (g.perform wording acts).error =
      ((g.reports wording acts).filterMap DropOutcome.message?).getLast?.getD g.error := by
  induction acts generalizing g with
  | nil => rfl
  | cons a acts ih =>
      have hrun : (g.perform wording (a :: acts)).error =
          ((g.act wording a).2.perform wording acts).error := rfl
      rw [hrun, ih, error_act, reports]
      cases hmessage : (g.act wording a).1.message? with
      | none => rw [List.filterMap_cons_none hmessage, Option.getD_none]
      | some message =>
          -- what comes later takes precedence over this message
          rw [List.filterMap_cons_some hmessage, Option.getD_some, List.getLast?_cons,
            Option.getD_some]

theorem perform_concat (g : Graph α) (wording : Json.Wording) (acts : List CanvasAct)
    (a : CanvasAct) :
    g.perform wording (acts ++ [a]) = ((g.perform wording acts).act wording a).2 :=
  List.foldl_concat ..

theorem reports_concat (g : Graph α) (wording : Json.Wording) (acts : List CanvasAct)
    (a : CanvasAct) :
    g.reports wording (acts ++ [a]) =
      g.reports wording acts ++ [((g.perform wording acts).act wording a).1] := by
  induction acts generalizing g with
  | nil => rfl
  | cons first acts ih =>
      rw [List.cons_append, reports, ih]
      rfl

/-- The message that would be shown after several acts if every success took an earlier one away:
that of the last act that was neither ignored nor left to the user. -/
def dueMessage (g : Graph α) (wording : Json.Wording) (acts : List CanvasAct) : Option String :=
  ((DropOutcome.lastActed (g.reports wording acts)).bind DropOutcome.dueMessage?).getD g.error

/-- **The message is the due one unless the last success is a column or a join, and an earlier
message is still in view.** -/
theorem error_perform_due_iff (g : Graph α) (wording : Json.Wording) (acts : List CanvasAct) :
    (g.perform wording acts).error = g.dueMessage wording acts ↔
      ∀ o, DropOutcome.lastActed (g.reports wording acts) = some o → o.isQuietSuccess = true →
        (g.perform wording acts).error = none := by
  -- acts that are ignored at the end change neither side
  induction acts using List.reverseRecOn with
  | nil => simp [perform, dueMessage, reports, DropOutcome.lastActed]
  | append_singleton acts a ih =>
      rw [dueMessage, perform_concat, reports_concat]
      cases hdue : ((g.perform wording acts).act wording a).1.dueMessage? with
      | none =>
          have hkept : ((g.perform wording acts).act wording a).2.error =
              (g.perform wording acts).error := by
            rw [error_act, DropOutcome.message?_eq, hdue, ite_self, Option.getD_none]
          rw [DropOutcome.lastActed_append_of_eq_none hdue, hkept]
          exact ih
      | some message =>
          have hact := (g.perform wording acts).error_act_due_iff wording a
          rw [hdue, Option.getD_some] at hact
          rw [DropOutcome.lastActed_append_of_isSome (by rw [hdue]; rfl), Option.bind_some, hdue,
            Option.getD_some, hact]
          simp

/-- **Which message is shown after drops.**  After each act it is none if a table was placed, the
reason if the act was refused, and what it was after every other one.  So after any number of acts it
is what the last one left that placed a table or was refused.  This is the due message exactly if the
last act that was not ignored added or moved a column or joined tables only while no message was in
view. -/
theorem message_after_acts (g : Graph α) (wording : Json.Wording) (acts : List CanvasAct) :
    (∀ a, ((g.perform wording acts).act wording a).2.error =
        ((g.perform wording acts).act wording a).1.message?.getD (g.perform wording acts).error) ∧
      (g.perform wording acts).error =
        ((g.reports wording acts).filterMap DropOutcome.message?).getLast?.getD g.error ∧
      ((g.perform wording acts).error = g.dueMessage wording acts ↔
        ∀ o, DropOutcome.lastActed (g.reports wording acts) = some o → o.isQuietSuccess = true →
          (g.perform wording acts).error = none) :=
  ⟨(g.perform wording acts).error_act wording, g.error_perform wording acts,
    g.error_perform_due_iff wording acts⟩

/-- A refusal, a table that is placed, and a column while no message is in view: the message is the
due one. -/
theorem message_after_acts_sample :
    let acts : List CanvasAct := [.dropText "[]" .canvas,
      .drop (.table ⟨some 5, some "items", none, some 4, []⟩) .canvas, .activate ⟨some 1, some 10⟩]
    Sample.graph.reports untyped acts =
        [.rejected "Unreadable drop payload: missing field `type` at line 1 column 2",
          .tableAdded 8, .columnAdded 9] ∧
      (Sample.graph.perform untyped acts).error = Sample.graph.dueMessage untyped acts := by
  intro acts
  obtain ⟨-, -, hdue⟩ := message_after_acts Sample.graph untyped acts
  have hnone : (Sample.graph.perform untyped acts).error = none := by decide +kernel
  exact ⟨by decide +kernel, hdue.2 fun _ _ _ => hnone⟩

/-- The reason of a refusal stays in view while columns are added and moved and tables are joined, so
the message is not always the due one. -/
theorem message_outlives_successes :
    ∃ (acts : List CanvasAct) (reason : String), Sample.graph.Reachable ∧
      reason = "Unreadable drop payload: missing field `type` at line 1 column 2" ∧
      Sample.graph.reports untyped acts = [.rejected reason, .columnAdded 8, .columnMoved 0 2,
        .joinAdded 9] ∧
      (Sample.graph.perform untyped acts).error = some reason ∧
      Sample.graph.dueMessage untyped acts = none ∧
      ¬∀ (g : Graph Float) (wording : Json.Wording) (acts : List CanvasAct),
        (g.perform wording acts).error = g.dueMessage wording acts := by
  let acts : List CanvasAct := [.dropText "[]" .canvas, .activate ⟨some 1, some 10⟩,
    .drop (.column 4) (.column 8), .drop (.connector 1) (.table 2)]
  have hshown : (Sample.graph.perform untyped acts).error =
      some "Unreadable drop payload: missing field `type` at line 1 column 2" := by
    decide +kernel
  have hdue : Sample.graph.dueMessage untyped acts = none := by decide +kernel
  refine ⟨acts, _, Sample.reachable_graph, rfl, by decide +kernel, hshown, hdue, ?_⟩
  intro h
  rw [h Sample.graph untyped acts, hdue] at hshown
  cases hshown

end Graph

end QueryBuilder
