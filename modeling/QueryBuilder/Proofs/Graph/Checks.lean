/-
**What the checks of a diagram say.**

Edits and loading ask the same questions of a diagram: whether a field belongs to a table, whether
a link connects two tables, whether a use of a field says what the catalog says.  This module
states the questions without the checks and proves that each check passes exactly when the answer
is yes.

Main definitions:

* `QueryBuilder.Diagram.HasField` — a table with an id has a field with an id;
* `QueryBuilder.Diagram.Connects` — a link is one between two tables by a field of each;
* `QueryBuilder.Diagram.Describes` — a use says of its field what the catalog says.

Main results:

* `QueryBuilder.Diagram.checkLink_eq_ok`, `QueryBuilder.Diagram.use_eq_ok`,
  `QueryBuilder.Diagram.checkCatalogId_eq_ok`, `QueryBuilder.Diagram.checkDatabase_eq_ok`,
  `QueryBuilder.Diagram.checkAlias_eq_ok`, `QueryBuilder.Diagram.checkUnused_eq_ok`,
  `QueryBuilder.Diagram.checkComparison_eq_ok` — when each check passes;
* `QueryBuilder.Diagram.table_id_mem` and the like — the ids of parts are in use;
* `QueryBuilder.Diagram.table?_append`, `QueryBuilder.Diagram.table?_filter`,
  `QueryBuilder.Diagram.table?_moved` — which table an id names after an edit of the tables.
-/

import QueryBuilder.Graph.Saved
import QueryBuilder.Proofs.Graph.Steps

set_option autoImplicit false

namespace QueryBuilder

/-- A step after another one gives a value if both do. -/
theorem bind_eq_ok {ε β γ : Type} {x : Except ε β} {f : β → Except ε γ} {c : γ} :
    x >>= f = .ok c ↔ ∃ b, x = .ok b ∧ f b = .ok c := by
  cases x with
  | error e => simp [bind, Except.bind]
  | ok b => simp [bind, Except.bind]

/-- A step that always goes on gives a value if the step before it does. -/
theorem map_eq_ok {ε β γ : Type} {x : Except ε β} {f : β → γ} {c : γ} :
    x.map f = .ok c ↔ ∃ b, x = .ok b ∧ f b = c := by
  cases x <;> simp [Except.map]

/-- It refuses what the step before it refuses. -/
theorem map_eq_error {ε β γ : Type} {x : Except ε β} {f : β → γ} {e : ε} :
    x.map f = .error e ↔ x = .error e := by
  cases x <;> simp [Except.map]

/-- A check that refuses if an item has a property passes if none has it. -/
theorem refusedIfAny_eq_ok {ε β : Type} {p : β → Bool} {items : List β} {e : ε} :
    (if items.any p then .error e else .ok () : Except ε Unit) = .ok () ↔
      ∀ item ∈ items, p item = false := by
  by_cases h : items.any p
  · rw [if_pos h]
    simpa using h
  · rw [if_neg h]
    simpa using h

namespace Diagram

variable {α : Type}

/-! ### Ids in use -/

section Ids

variable {d : Diagram α}

theorem table_id_mem {t : PlacedTable α} (h : t ∈ d.tables) : t.id ∈ d.ids := by
  have hmem : t.id ∈ d.tables.map (fun t => t.id) := List.mem_map_of_mem h
  simp [ids, hmem]

theorem join_id_mem {j : Join} (h : j ∈ d.joins) : j.id ∈ d.ids := by
  have hmem : j.id ∈ d.joins.map (fun j => j.id) := List.mem_map_of_mem h
  simp [ids, hmem]

theorem column_id_mem {c : Column} (h : c ∈ d.columns) : c.id ∈ d.ids := by
  have hmem : c.id ∈ d.columns.map (fun c => c.id) := List.mem_map_of_mem h
  simp [ids, hmem]

theorem filter_id_mem {f : Filter} (h : f ∈ d.filters) : f.id ∈ d.ids := by
  have hmem : f.id ∈ d.filters.map (fun f => f.id) := List.mem_map_of_mem h
  simp [ids, hmem]

end Ids

/-! ### Tables by id -/

/-- The table that an id names is a table of the diagram and has this id. -/
theorem mem_of_table? {d : Diagram α} {id : Nat} {t : PlacedTable α} (h : d.table? id = some t) :
    t ∈ d.tables ∧ t.id = id := by
  refine ⟨List.mem_of_find?_eq_some h, ?_⟩
  have := List.find?_some h
  simpa using this

/-- A table that comes last does not change what an id names, if it names something. -/
theorem table?_append {d : Diagram α} {id : Nat} {t : PlacedTable α} (h : d.table? id = some t)
    (database : Option Int) (new : PlacedTable α) :
    ({ d with database, tables := d.tables ++ [new] } : Diagram α).table? id = some t := by
  simp only [table?, List.find?_append] at h ⊢
  rw [h]
  rfl

/-- Taking away the tables with one id does not change what another id names. -/
theorem table?_filter {tables : List (PlacedTable α)} {gone id : Nat} (h : id ≠ gone) :
    (tables.filter fun t => t.id != gone).find? (fun t => t.id == id) =
      tables.find? fun t => t.id == id := by
  rw [List.find?_filter]
  congr 1
  funext t
  by_cases ht : t.id = id
  · simp [ht, h]
  · simp [ht]

/-- A moved table is found under its id, and so are the others. -/
theorem table?_moved (d : Diagram α) (moved id : Nat) (position : Position α) :
    (d.moved moved position).table? id =
      (d.table? id).map fun t => if t.id = moved then { t with position } else t := by
  simp only [table?, Diagram.moved, List.find?_map]
  congr 2
  funext t
  by_cases ht : t.id = moved <;> simp [ht]

/-! ### Fields of tables -/

/-- A table with an id has a field with an id. -/
def HasField (d : Diagram α) (table : Nat) (field : Int) : Prop :=
  ∃ t, d.table? table = some t ∧ t.hasField field = true

/-- A link connects two different tables by a field of each. -/
def Connects (d : Diagram α) (l : Link) : Prop :=
  l.source ≠ l.target ∧ d.HasField l.source l.sourceField ∧ d.HasField l.target l.targetField

/-- A use of a field names a field of a table, and says of both what the catalog says. -/
def Describes (d : Diagram α) (u : FieldUse) : Prop :=
  ∃ t f, d.table? u.table = some t ∧ t.field? u.field = some f ∧
    u.fieldName = f.name ∧ u.tableName = t.name ∧ u.baseType = f.baseType

theorem checkKey_eq_ok {d : Diagram α} {table : Nat} {field : Int} :
    d.checkKey table field = .ok () ↔ d.HasField table field := by
  unfold checkKey HasField
  cases d.table? table with
  | none => simp
  | some t => by_cases h : t.hasField field <;> simp [h]

/-- **The check of a link passes for links between two tables by a field of each.** -/
theorem checkLink_eq_ok {d : Diagram α} {l : Link} : d.checkLink l = .ok () ↔ d.Connects l := by
  unfold checkLink
  by_cases h : l.source = l.target
  · refine ⟨fun hok => ?_, fun hc => absurd h hc.1⟩
    simp [h, bind, Except.bind, throw, throwThe, MonadExceptOf.throw] at hok
  · rw [if_neg h]
    constructor
    · intro hok
      obtain ⟨_, hsource, htarget⟩ := bind_eq_ok.1 hok
      exact ⟨h, checkKey_eq_ok.1 hsource, checkKey_eq_ok.1 htarget⟩
    · rintro ⟨_, hsource, htarget⟩
      exact bind_eq_ok.2 ⟨(), checkKey_eq_ok.2 hsource, checkKey_eq_ok.2 htarget⟩

/-- **The use of a field is the one that says what the catalog says.** -/
theorem use_eq_ok {d : Diagram α} {table : Nat} {field : Int} {u : FieldUse} :
    d.use table field = .ok u ↔ u.table = table ∧ u.field = field ∧ d.Describes u := by
  unfold use Describes
  constructor
  · intro h
    cases ht : d.table? table with
    | none => simp [ht] at h
    | some t =>
        cases hf : t.field? field with
        | none => simp [ht, hf] at h
        | some f =>
            simp only [ht, hf, Except.ok.injEq] at h
            subst h
            exact ⟨rfl, rfl, t, f, ht, hf, rfl, rfl, rfl⟩
  · rintro ⟨rfl, rfl, t, f, ht, hf, hn, htn, hb⟩
    simp only [ht, hf, ← hn, ← htn, ← hb]

/-! ### The other checks -/

theorem checkCatalogId_eq_ok {d : Diagram α} {catalogId : Int} :
    d.checkCatalogId catalogId = .ok () ↔ ∀ t ∈ d.tables, t.catalogId ≠ catalogId := by
  rw [checkCatalogId, refusedIfAny_eq_ok]
  simp

theorem checkAlias_eq_ok {d : Diagram α} {aliasName : String} :
    d.checkAlias aliasName = .ok () ↔ ∀ t ∈ d.tables, t.aliasName ≠ aliasName := by
  rw [checkAlias, refusedIfAny_eq_ok]
  simp

theorem checkDatabase_eq_ok {d : Diagram α} {database : Int} :
    d.checkDatabase database = .ok () ↔ ∀ other ∈ d.database, other = database := by
  unfold checkDatabase
  cases d.database with
  | none => simp
  | some other => by_cases h : other = database <;> simp [h]

theorem checkUnused_eq_ok {d : Diagram α} {u : FieldUse} :
    d.checkUnused u = .ok () ↔ ∀ c ∈ d.columns, (c.table, c.field) ≠ (u.table, u.field) := by
  rw [checkUnused, refusedIfAny_eq_ok]
  simp

theorem checkComparison_eq_ok {comparison : Comparison} {baseType : String} :
    checkComparison comparison baseType = .ok () ↔
      (FieldClass.ofBaseType baseType).supports comparison = true := by
  unfold checkComparison
  by_cases h : (FieldClass.ofBaseType baseType).supports comparison <;> simp [h]

end Diagram

end QueryBuilder
