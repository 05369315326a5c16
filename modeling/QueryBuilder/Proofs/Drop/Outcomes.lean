/-
**What came of a drop is what happened to the graph.**

A drop reports its outcome, and the graph after it is in line with the report.  If something was
added or moved, then the graph is the one after exactly one edit that applied, with the reported id
or places.  If the drop was ignored, or two tables wait for their keys, then the graph is the same as
before.  If the drop was refused, then the reason is that something is missing or that the edit was
refused, and only the message of the graph changes, to the reported one.  Edits that show their
refusal and drops that show it for them agree on this message.

Each kind of payload belongs to one kind of target; all other pairs are ignored.

Main definitions:

* `QueryBuilder.Payload.Fits` — the pairs of a payload and a target that are not ignored as such;
* `QueryBuilder.Graph.Refuses` — why a drop is refused, with the message;
* `QueryBuilder.Graph.Tells` — what an outcome says of the graph before the drop and after it.

Main results:

* `QueryBuilder.Graph.tells_dropTable`, `QueryBuilder.Graph.tells_activate`,
  `QueryBuilder.Graph.tells_dropColumn`, `QueryBuilder.Graph.tells_dropConnector` — each kind of
  drop;
* `QueryBuilder.Graph.drop_of_not_fits` — the pairs that do not fit are ignored;
* `QueryBuilder.Graph.outcome_truthful` — **outcomes tell the truth about the graph**.
-/

import QueryBuilder.Drop.Dispatch
import QueryBuilder.Proofs.Graph.Refusals

set_option autoImplicit false

namespace QueryBuilder

/-- The pairs of a payload and a target that are not ignored as such. -/
inductive Payload.Fits : Payload → Target → Prop where
  | table (drag : TableDrag) : Fits (.table drag) .canvas
  | field (drag : FieldDrag) : Fits (.field drag) .columnList
  | column (moved other : Nat) : Fits (.column moved) (.column other)
  | connector (source target : Nat) : Fits (.connector source) (.table target)

/-- A text that cannot be read is refused in the words of the reader. -/
theorem Payload.eq_unreadable_of_ofText {wording : Json.Wording} {text : String} {e : DropError}
    (h : ofText wording text = .error e) : e = .unreadable (wording text) := by
  unfold ofText at h
  split at h <;> cases h
  rfl

namespace Graph

variable {α : Type} [Coordinate α]

/-! ### What outcomes say -/

/-- Why a drop is refused, with the message: something is missing, or the edit is refused. -/
inductive Refuses (g : Graph α) : Payload → Target → String → Prop where
  | tableLacks {drag : TableDrag} {e : DropError} (h : drag.toNewTable = .error e) :
      Refuses g (.table drag) .canvas e.message
  | table {drag : TableDrag} {t : NewTable} {e : GraphError} (ht : drag.toNewTable = .ok t)
      (h : (g.addTable t).1 = .error e) : Refuses g (.table drag) .canvas e.message
  | fieldLacksTable {drag : FieldDrag} (h : drag.table = none) :
      Refuses g (.field drag) .columnList (DropError.missing "canvasTableId").message
  | fieldLacksField {drag : FieldDrag} (htable : drag.table ≠ none) (h : drag.field = none) :
      Refuses g (.field drag) .columnList (DropError.missing "fieldId").message
  | field {table : Nat} {field : Int} {e : GraphError} (h : (g.addColumn table field).1 = .error e) :
      Refuses g (.field ⟨some table, some field⟩) .columnList e.message
  | connector {source target : Nat} {keys : Suggestion} {e : GraphError}
      (h : (g.addJoin ⟨source, target, keys.sourceField, keys.targetField, .left⟩).1 = .error e) :
      Refuses g (.connector source) (.table target) e.message

/-- What an outcome says of the graph before the drop and after it. -/
inductive Tells (g : Graph α) : Payload → Target → DropOutcome → Graph α → Prop where
  | unfit {payload : Payload} {target : Target} (h : ¬ payload.Fits target) :
      Tells g payload target .ignored g
  | tableAdded {drag : TableDrag} {t : NewTable} {id : Nat} {g' : Graph α}
      (ht : drag.toNewTable = .ok t) (h : g.addTable t = (.ok id, g')) :
      Tells g (.table drag) .canvas (.tableAdded id) g'
  | columnAdded {table : Nat} {field : Int} {id : Nat} {g' : Graph α}
      (h : g.addColumn table field = (.ok id, g')) :
      Tells g (.field ⟨some table, some field⟩) .columnList (.columnAdded id) g'
  | columnMoved {moved other src dst : Nat} {g' : Graph α} (hsrc : g.columnIndex? moved = some src)
      (hdst : g.columnIndex? other = some dst) (hne : src ≠ dst)
      (h : g.reorderColumns src dst = (.ok (), g')) :
      Tells g (.column moved) (.column other) (.columnMoved src dst) g'
  /-- One of the two columns is gone, or they are the same. -/
  | columnStays {moved other : Nat}
      (h : ∀ src dst, g.columnIndex? moved = some src → g.columnIndex? other = some dst → src = dst) :
      Tells g (.column moved) (.column other) .ignored g
  | joinAdded {source target : Nat} {s t : PlacedTable α} {keys : Suggestion} {id : Nat}
      {g' : Graph α} (hs : g.table? source = some s) (ht : g.table? target = some t)
      (hkeys : suggest s.side t.side = some keys)
      (h : g.addJoin ⟨source, target, keys.sourceField, keys.targetField, .left⟩ = (.ok id, g')) :
      Tells g (.connector source) (.table target) (.joinAdded id) g'
  | joinDraft {source target : Nat} {s t : PlacedTable α} (hs : g.table? source = some s)
      (ht : g.table? target = some t) (h : suggest s.side t.side = none) :
      Tells g (.connector source) (.table target) (.joinDraft source target) g
  /-- One of the two tables is gone, or they are the same. -/
  | unlinked {source target : Nat}
      (h : source = target ∨ g.table? source = none ∨ g.table? target = none) :
      Tells g (.connector source) (.table target) .ignored g
  | rejected {payload : Payload} {target : Target} {message : String}
      (h : g.Refuses payload target message) :
      Tells g payload target (.rejected message) { g with error := some message }

/-! ### Refused edits -/

variable {g g' : Graph α} {e : GraphError}

/-- A table that is refused leaves its message. -/
theorem addTable_refused {t : NewTable} (h : g.addTable t = (.error e, g')) :
    g' = { g with error := some e.message } := by
  have hanswer : g.answer (.addTable t) = .error e := by rw [answer, h]; rfl
  have happly := apply_of_error hanswer
  rw [apply, h] at happly
  exact happly

/-- A column that is refused leaves nothing. -/
theorem addColumn_refused {table : Nat} {field : Int}
    (h : g.addColumn table field = (.error e, g')) : g' = g := by
  have hanswer : g.answer (.addColumn table field) = .error e := by rw [answer, h]; rfl
  have happly := apply_of_error hanswer
  rw [apply, h] at happly
  exact happly

/-- A join that is refused leaves nothing. -/
theorem addJoin_refused {link : Link} (h : g.addJoin link = (.error e, g')) : g' = g := by
  have hanswer : g.answer (.addJoin link) = .error e := by rw [answer, h]; rfl
  have happly := apply_of_error hanswer
  rw [apply, h] at happly
  exact happly

/-! ### Kinds of drops -/

/-- A table is placed, or refused with the message that the edit left. -/
theorem tells_dropTable (g : Graph α) (drag : TableDrag) :
    g.Tells (.table drag) .canvas (g.dropTable drag).1 (g.dropTable drag).2 := by
  unfold dropTable
  cases ht : drag.toNewTable with
  | error e => exact .rejected (.tableLacks ht)
  | ok t =>
      simp only
      obtain ⟨r, g', hadd⟩ : ∃ r g', g.addTable t = (r, g') := ⟨_, _, rfl⟩
      cases r with
      | ok id =>
          rw [hadd]
          exact .tableAdded ht hadd
      | error e =>
          -- the edit shows its refusal by itself, and the drop repeats the message
          have hrefuses : g.Refuses (.table drag) .canvas e.message := .table ht (by rw [hadd])
          rw [hadd, addTable_refused hadd]
          exact .rejected hrefuses

/-- A field becomes a column, or is refused with a message that the drop leaves. -/
theorem tells_activate (g : Graph α) (drag : FieldDrag) :
    g.Tells (.field drag) .columnList (g.activate drag).1 (g.activate drag).2 := by
  obtain ⟨table, field⟩ := drag
  cases table with
  | none => exact .rejected (.fieldLacksTable rfl)
  | some table =>
      cases field with
      | none => exact .rejected (.fieldLacksField (by simp) rfl)
      | some field =>
          simp only [activate]
          obtain ⟨r, g', hadd⟩ : ∃ r g', g.addColumn table field = (r, g') := ⟨_, _, rfl⟩
          cases r with
          | ok id =>
              rw [hadd]
              exact .columnAdded hadd
          | error e =>
              have hrefuses : g.Refuses (.field ⟨some table, some field⟩) .columnList e.message :=
                .field (by rw [hadd])
              rw [hadd, addColumn_refused hadd]
              exact .rejected hrefuses

omit [Coordinate α] in
/-- The place of a column is one among the columns. -/
theorem lt_of_columnIndex? {id index : Nat} (h : g.columnIndex? id = some index) :
    index < g.columns.length := by
  obtain ⟨hlt, -⟩ := List.findIdx?_eq_some_iff_findIdx_eq.1 h
  exact hlt

omit [Coordinate α] in
/-- Between places of columns a column can always be moved. -/
theorem reorderColumns_ok {src dst : Nat} (hsrc : src < g.columns.length)
    (hdst : dst < g.columns.length) : ∃ g', g.reorderColumns src dst = (.ok (), g') := by
  rw [reorderColumns_eq, if_neg (by omega), if_neg (by omega)]
  exact ⟨_, rfl⟩

/-- A column takes the place of another one, or stays where it is. -/
theorem tells_dropColumn (g : Graph α) (moved other : Nat) :
    g.Tells (.column moved) (.column other) (g.dropColumn moved other).1
      (g.dropColumn moved other).2 := by
  unfold dropColumn
  cases hsrc : g.columnIndex? moved with
  | none => exact .columnStays (by simp [hsrc])
  | some src =>
      cases hdst : g.columnIndex? other with
      | none => exact .columnStays (by simp [hdst])
      | some dst =>
          simp only
          by_cases hsame : src = dst
          · rw [if_pos hsame]
            exact .columnStays (by simp [hsrc, hdst, hsame])
          · obtain ⟨g', hmove⟩ :=
              reorderColumns_ok (lt_of_columnIndex? hsrc) (lt_of_columnIndex? hdst)
            rw [if_neg hsame, hmove]
            exact .columnMoved hsrc hdst hsame hmove

/-- Two tables are joined by the suggested keys, wait for their keys, or stay as they are. -/
theorem tells_dropConnector (g : Graph α) (source target : Nat) :
    g.Tells (.connector source) (.table target) (g.dropConnector source target).1
      (g.dropConnector source target).2 := by
  unfold dropConnector
  by_cases hsame : source = target
  · rw [if_pos hsame]
    exact .unlinked (.inl hsame)
  · rw [if_neg hsame]
    cases hs : g.table? source with
    | none => exact .unlinked (.inr (.inl hs))
    | some s =>
        cases ht : g.table? target with
        | none => exact .unlinked (.inr (.inr ht))
        | some t =>
            simp only
            cases hsuggest : suggest s.side t.side with
            | none => exact .joinDraft hs ht hsuggest
            | some keys =>
                simp only
                obtain ⟨r, g', hadd⟩ : ∃ r g',
                    g.addJoin ⟨source, target, keys.sourceField, keys.targetField, .left⟩ =
                      (r, g') := ⟨_, _, rfl⟩
                cases r with
                | ok id =>
                    rw [hadd]
                    exact .joinAdded hs ht hsuggest hadd
                | error e =>
                    have hrefused : (g.addJoin
                        ⟨source, target, keys.sourceField, keys.targetField, .left⟩).1 =
                          .error e := by
                      rw [hadd]
                    rw [hadd, addJoin_refused hadd]
                    exact .rejected (.connector hrefused)

/-! ### All drops -/

/-- Pairs that do not fit are ignored. -/
theorem drop_of_not_fits {payload : Payload} {target : Target} (h : ¬ payload.Fits target) :
    g.drop payload target = (.ignored, g) := by
  cases payload with
  | table drag =>
      cases target with
      | canvas => exact (h (.table drag)).elim
      | _ => rfl
  | field drag =>
      cases target with
      | columnList => exact (h (.field drag)).elim
      | _ => rfl
  | column moved =>
      cases target with
      | column other => exact (h (.column moved other)).elim
      | _ => rfl
  | connector source =>
      cases target with
      | table id => exact (h (.connector source id)).elim
      | _ => rfl

/-- Every drop leaves the graph as its outcome says. -/
theorem tells_drop (g : Graph α) (payload : Payload) (target : Target) :
    g.Tells payload target (g.drop payload target).1 (g.drop payload target).2 := by
  by_cases hfits : payload.Fits target
  · cases hfits with
    | table drag => exact g.tells_dropTable drag
    | field drag => exact g.tells_activate drag
    | column moved other => exact g.tells_dropColumn moved other
    | connector source target => exact g.tells_dropConnector source target
  · rw [drop_of_not_fits hfits]
    exact .unfit hfits

/-- **Outcomes tell the truth about the graph.**  Whatever is dropped wherever, the graph after it is
in line with the outcome; pairs that do not fit are ignored, and a column dropped on a column is
never refused.  A text is dropped as the payload that it says, and refused if it says none, in the
words of the reader. -/
theorem outcome_truthful (g : Graph α) :
    (∀ payload target,
      g.Tells payload target (g.drop payload target).1 (g.drop payload target).2) ∧
    (∀ payload target, ¬ payload.Fits target → g.drop payload target = (.ignored, g)) ∧
    (∀ moved other message, (g.drop (.column moved) (.column other)).1 ≠ .rejected message) ∧
    ∀ wording text target,
      (∀ payload, Payload.ofText wording text = .ok payload →
        g.dropText wording text target = g.drop payload target) ∧
      ∀ e, Payload.ofText wording text = .error e →
        e = .unreadable (wording text) ∧
          g.dropText wording text target =
            (.rejected e.message, { g with error := some e.message }) := by
  refine ⟨g.tells_drop, ?_, ?_, ?_⟩
  · intro payload target hunfit
    exact drop_of_not_fits hunfit
  · -- no way to refuse a drop is about a column on a column
    intro moved other message hrejected
    have htells := g.tells_drop (.column moved) (.column other)
    rw [hrejected] at htells
    generalize (g.drop (.column moved) (.column other)).2 = g' at htells
    cases htells with
    | rejected hrefuses => cases hrefuses
  · intro wording text target
    constructor
    · intro payload hpayload
      rw [dropText, hpayload]
    · intro e he
      refine ⟨Payload.eq_unreadable_of_ofText he, ?_⟩
      rw [dropText, he]
      rfl

/-- What a reader says about a list without a type. -/
def untyped : Json.Wording :=
  fun _ => "missing field `type` at line 1 column 2"

/-- A column dropped on a table, a text that says a connector and one that says nothing. -/
theorem outcome_truthful_sample :
    (¬ Payload.Fits (.column 4) (.table 1) ∧
      Sample.graph.drop (.column 4) (.table 1) = (.ignored, Sample.graph)) ∧
    (Payload.ofText untyped "\x7b\"type\":\"tableLink\",\"sourceTableId\":1\x7d" =
        .ok (.connector 1) ∧
      Sample.graph.dropText untyped "\x7b\"type\":\"tableLink\",\"sourceTableId\":1\x7d"
          (.table 2) =
        Sample.graph.drop (.connector 1) (.table 2)) ∧
    Sample.graph.dropText untyped "[]" .canvas =
      (.rejected "Unreadable drop payload: missing field `type` at line 1 column 2",
        { Sample.graph with
          error := some "Unreadable drop payload: missing field `type` at line 1 column 2" }) := by
  obtain ⟨-, hunfit, -, htext⟩ := outcome_truthful Sample.graph
  have hfits : ¬ Payload.Fits (.column 4) (.table 1) := fun h => by cases h
  have htold : Payload.ofText untyped "\x7b\"type\":\"tableLink\",\"sourceTableId\":1\x7d" =
      .ok (.connector 1) := by decide +kernel
  have hnothing : Payload.ofText untyped "[]" = .error (.unreadable (untyped "[]")) := by
    decide +kernel
  exact ⟨⟨hfits, hunfit _ _ hfits⟩, ⟨htold, (htext _ _ _).1 _ htold⟩,
    ((htext _ _ _).2 _ hnothing).2⟩

end Graph

end QueryBuilder
