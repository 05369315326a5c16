/-
**Edits of the parts, apart from their ids.**

Joins, columns and filters are edited each among themselves.  An edit adds a part at the end,
changes a part, takes one away, or moves one to another place, and it asks the tables whether it
may.  What it makes of the parts of its kind is a *plan*, which is made from the tables alone: it
looks at parts without their ids, and names parts by how they came about and not by ids.

A plan can be carried out on parts under any labels, be it the ids that they have in a graph or
something else, and relabelling the parts before is relabelling them after.

Main definitions:

* `QueryBuilder.PartKind`, `QueryBuilder.PartKind.Part` — the kinds of parts;
* `QueryBuilder.PartName` — how a part came about;
* `QueryBuilder.PartEdit` — the edits of the parts of a kind, by names;
* `QueryBuilder.Plan`, `QueryBuilder.PartEdit.plan` — what such an edit makes of the parts.

Main results:

* `QueryBuilder.PartEdit.realizes` — **edits of a graph carry out their plans**, on the parts of
  their kind and on nothing else;
* `QueryBuilder.Plan.run_relabelled` — plans look at no label but those that they name.
-/

import Mathlib.Data.List.Find
import QueryBuilder.Graph.Query
import QueryBuilder.Proofs.Graph.Accepted
import QueryBuilder.Proofs.Graph.Preservation

set_option autoImplicit false

namespace QueryBuilder

variable {α : Type}

/-! ### Kinds of parts -/

/-- The kinds of parts, apart from tables. -/
inductive PartKind
  | join
  | column
  | filter
  deriving DecidableEq, Repr

namespace PartKind

/-- The parts of a kind. -/
@[reducible] def Part : PartKind → Type
  | join => Join
  | column => Column
  | filter => Filter

/-- The id of a part. -/
def id : (kind : PartKind) → kind.Part → Nat
  | join => Join.id
  | column => Column.id
  | filter => Filter.id

/-- All that a part says, apart from its id. -/
def content : (kind : PartKind) → kind.Part → kind.Part
  | join => fun j => { j with id := 0 }
  | column => fun c => { c with id := 0 }
  | filter => fun f => { f with id := 0 }

/-- What parts say, under their ids. -/
def labelled (kind : PartKind) (parts : List kind.Part) : List (Nat × kind.Part) :=
  parts.map fun part => (kind.id part, kind.content part)

end PartKind

namespace Diagram

/-- The parts of a kind. -/
def parts (d : Diagram α) : (kind : PartKind) → List kind.Part
  | .join => d.joins
  | .column => d.columns
  | .filter => d.filters

/-- The diagram with other parts of a kind. -/
def withParts (d : Diagram α) : (kind : PartKind) → List kind.Part → Diagram α
  | .join, joins => { d with joins }
  | .column, columns => { d with columns }
  | .filter, filters => { d with filters }

/-- A diagram that has tables alone. -/
def ofTables (tables : List (PlacedTable α)) : Diagram α :=
  { (empty : Diagram α) with tables }

variable (d : Diagram α) (kind : PartKind) (parts' : List kind.Part)

@[simp] theorem parts_withParts : (d.withParts kind parts').parts kind = parts' := by
  cases kind <;> rfl

theorem parts_withParts_of_ne {other : PartKind} (h : other ≠ kind) :
    (d.withParts kind parts').parts other = d.parts other := by
  cases kind <;> cases other
  case join.join | column.column | filter.filter => exact absurd rfl h
  all_goals rfl

@[simp] theorem tables_withParts : (d.withParts kind parts').tables = d.tables := by
  cases kind <;> rfl

@[simp] theorem database_withParts : (d.withParts kind parts').database = d.database := by
  cases kind <;> rfl

/-- Parts have ids of the diagram. -/
theorem id_mem_ids {part : kind.Part} (h : part ∈ d.parts kind) : kind.id part ∈ d.ids := by
  cases kind with
  | join => exact join_id_mem h
  | column => exact column_id_mem h
  | filter => exact filter_id_mem h

/-- The tables alone decide which links there may be. -/
theorem checkLink_ofTables : (ofTables d.tables).checkLink = d.checkLink := rfl

/-- The tables alone tell what the catalog knows of a field. -/
theorem use_ofTables : (ofTables d.tables).use = d.use := rfl

/-- Whether a field is shown already does not depend on the ids of columns. -/
theorem checkUnused_content (use : FieldUse) :
    { ofTables d.tables with
      columns := (d.parts .column).map PartKind.column.content }.checkUnused use =
        d.checkUnused use := by
  rw [checkUnused, checkUnused, List.any_map]
  rfl

/-- The query is made from the tables and from what the parts say. -/
theorem query?_eq_content : d.query? =
    { ofTables d.tables with
      joins := (d.parts .join).map PartKind.join.content
      columns := (d.parts .column).map PartKind.column.content
      filters := (d.parts .filter).map PartKind.filter.content }.query? := by
  simp only [query?, condition?, List.filterMap_map, List.map_map, List.foldl_map]
  rfl

/-- **The query does not depend on the ids of joins, columns and filters.** -/
theorem query?_congr {d d' : Diagram α} (htables : d'.tables = d.tables)
    (hparts : ∀ kind : PartKind,
      (d'.parts kind).map kind.content = (d.parts kind).map kind.content) :
    d'.query? = d.query? := by
  rw [query?_eq_content, query?_eq_content d, htables, hparts .join, hparts .column,
    hparts .filter]

end Diagram

/-! ### Edits -/

/-- How a part came about: it was there before, or a step among the edits of its kind added it. -/
inductive PartName
  | old (id : Nat)
  | new (step : Nat)
  deriving DecidableEq, Repr

/-- The edits of the parts of a kind, which name parts by how they came about. -/
inductive PartEdit : PartKind → Type
  | addJoin (link : Link) : PartEdit .join
  | updateJoin (join : PartName) (change : LinkChange) : PartEdit .join
  | removeJoin (join : PartName) : PartEdit .join
  | addColumn (table : Nat) (field : Int) : PartEdit .column
  | updateColumn (column : PartName) (change : ColumnChange) : PartEdit .column
  | removeColumn (column : PartName) : PartEdit .column
  | reorderColumns (src dst : Nat) : PartEdit .column
  | addFilter (table : Nat) (field : Int) : PartEdit .filter
  | updateFilter (filter : PartName) (change : FilterChange) : PartEdit .filter
  | removeFilter (filter : PartName) : PartEdit .filter

/-- A new comparison, if there is one, is one that the type of the field admits. -/
def FilterChange.check (change : FilterChange) (baseType : String) : Except GraphError Unit :=
  match change.comparison with
  | none => .ok ()
  | some comparison => Diagram.checkComparison comparison baseType

/-- What an edit makes of the parts of its kind.  It looks at parts without their ids. -/
inductive Plan (β : Type)
  | add (make : List β → Except GraphError β)
  | update (name : PartName) (change : β → Except GraphError (β → β))
  | remove (name : PartName)
  | move (src dst : Nat)

namespace PartEdit

variable {kind : PartKind}

/-- The part that an edit is about, if there has to be one. -/
def part? : PartEdit kind → Option PartName
  | updateJoin name _ | removeJoin name | updateColumn name _ | removeColumn name
  | updateFilter name _ | removeFilter name => some name
  | addJoin _ | addColumn .. | reorderColumns .. | addFilter .. => none

/-- The edit of a graph whose parts have certain ids. -/
def edit (id : PartName → Nat) : PartEdit kind → Edit α
  | addJoin link => .addJoin link
  | updateJoin name change => .updateJoin (id name) change
  | removeJoin name => .removeJoin (id name)
  | addColumn table field => .addColumn table field
  | updateColumn name change => .updateColumn (id name) change
  | removeColumn name => .removeColumn (id name)
  | reorderColumns src dst => .reorderColumns src dst
  | addFilter table field => .addFilter table field
  | updateFilter name change => .updateFilter (id name) change
  | removeFilter name => .removeFilter (id name)

/-- The plan of an edit, made from the tables. -/
def plan (tables : List (PlacedTable α)) : PartEdit kind → Plan kind.Part
  | addJoin link => .add fun _ =>
      ((Diagram.ofTables tables).checkLink link).map fun _ => ({ link with id := 0 } : Join)
  | updateJoin name change => .update name fun j : Join =>
      ((Diagram.ofTables tables).checkLink (change.apply j.toLink)).map fun _ _ =>
        ({ change.apply j.toLink with id := 0 } : Join)
  | removeJoin name => .remove name
  | addColumn table field => .add fun columns =>
      (Diagram.ofTables tables).use table field >>= fun use =>
        ({ Diagram.ofTables tables with columns }.checkUnused use).map fun _ =>
          ({ use with id := 0, aggregation := .plain, aliasName := none } : Column)
  | updateColumn name change => .update name fun _ => .ok change.apply
  | removeColumn name => .remove name
  | reorderColumns src dst => .move src dst
  | addFilter table field => .add fun _ =>
      ((Diagram.ofTables tables).use table field).map fun use =>
        ({ use with id := 0, comparison := .eq, value := none, connective := .and } : Filter)
  | updateFilter name change => .update name fun f : Filter =>
      (change.check f.baseType).map fun _ => change.apply
  | removeFilter name => .remove name

end PartEdit

/-! ### Plans -/

namespace Plan

variable {β ν : Type} [DecidableEq ν]

/-- The part that a plan is about, if there has to be one. -/
def part? : Plan β → Option PartName
  | update name _ | remove name => some name
  | add _ | move .. => none

/-- Carries out a plan on labelled parts: the label of the part that is added, if one is, and the
parts after it.  A name that names nothing changes nothing. -/
def run (label : PartName → ν) (next : ν) (parts : List (ν × β)) :
    Plan β → Except GraphError (Option ν × List (ν × β))
  | add make => (make (parts.map Prod.snd)).map fun part => (some next, parts ++ [(next, part)])
  | update name change =>
    match parts.find? fun p => p.1 = label name with
    | none => .ok (none, parts)
    | some p => (change p.2).map fun f =>
        (none, parts.map fun p => if p.1 = label name then (p.1, f p.2) else p)
  | remove name => .ok (none, parts.filter fun p => p.1 ≠ label name)
  | move src dst =>
    if parts.length ≤ src then .error (.indexOutOfRange src parts.length)
    else if parts.length ≤ dst then .error (.indexOutOfRange dst parts.length)
    else .ok (none, moveItem parts src dst)

variable {ν' : Type} [DecidableEq ν'] {label : PartName → ν} {next : ν}
  {label' : PartName → ν'} {next' : ν'} {f : ν → ν'}

/-- **Plans look at no label but those that they name.**  To relabel the parts before a plan is
carried out is to relabel those after it, if what the plan names keeps its name. -/
theorem run_relabelled {plan : Plan β} {parts : List (ν × β)} (hnext : f next = next')
    (hname : ∀ name ∈ plan.part?, ∀ p ∈ parts, f p.1 = label' name ↔ p.1 = label name) :
    plan.run label' next' (parts.map (Prod.map f id)) =
      (plan.run label next parts).map (Prod.map (Option.map f) (List.map (Prod.map f id))) := by
  cases plan with
  | add make =>
      have hcontents : (parts.map (Prod.map f id)).map Prod.snd = parts.map Prod.snd := by
        rw [List.map_map]
        rfl
      rw [run, run, hcontents]
      cases make (parts.map Prod.snd) with
      | error e => rfl
      | ok part => simp [Except.map, hnext]
  | update name change =>
      have hlabel := hname name rfl
      have hfind : (parts.map (Prod.map f id)).find? (fun p => p.1 = label' name) =
          (parts.find? fun p => p.1 = label name).map (Prod.map f id) := by
        rw [List.find?_map]
        exact congrArg _ (List.find?_congr fun p hp => decide_eq_decide.2 (hlabel p hp))
      simp only [run, hfind]
      cases parts.find? fun p => p.1 = label name with
      | none => rfl
      | some p =>
          simp only [Option.map_some, Prod.map_snd, id_eq]
          cases change p.2 with
          | error e => rfl
          | ok g =>
              simp only [Except.map, List.map_map, Prod.map_apply, Option.map_none]
              refine congrArg (fun parts => Except.ok (none, parts)) ?_
              refine List.map_congr_left fun p hp => ?_
              by_cases hp' : p.1 = label name
              · have hf' := (hlabel p hp).2 hp'
                simp only [Function.comp_apply, Prod.map_fst, if_pos hp', if_pos hf']
                rfl
              · have hf' := mt (hlabel p hp).1 hp'
                simp only [Function.comp_apply, Prod.map_fst, if_neg hp', if_neg hf']
  | remove name =>
      have hlabel := hname name rfl
      simp only [run, Except.map, Prod.map_apply, Option.map_none, List.filter_map]
      refine congrArg (fun ps : List (ν × β) => Except.ok (none, ps.map (Prod.map f id))) ?_
      refine List.filter_congr fun p hp => ?_
      simp [hlabel p hp]
  | move src dst =>
      simp only [run, List.length_map]
      split
      · rfl
      · split
        · rfl
        · rw [Except.map, moveItem_map]
          rfl

end Plan

/-- A plan is about the part that the edit is about. -/
theorem PartEdit.part?_plan {kind : PartKind} (e : PartEdit kind)
    (tables : List (PlacedTable α)) : (e.plan tables).part? = e.part? := by
  cases e <;> rfl

/-! ### Edits carry out plans -/

/-- An edit of a graph does to the parts of a kind what is told, and nothing else. -/
inductive Graph.Realizes [Coordinate α] (g : Graph α) (e : Edit α) (kind : PartKind) :
    Except GraphError (Option Nat × List (Nat × kind.Part)) → Prop
  | refused {err : GraphError} (h : g.answer e = .error err) : g.Realizes e kind (.error err)
  | accepted {added : Option Nat} {parts : List kind.Part}
      (h : g.Yields e added (g.toDiagram.withParts kind parts)) :
      g.Realizes e kind (.ok (added, kind.labelled parts))

namespace PartKind

variable {kind : PartKind} {parts : List kind.Part} {i : Nat}

theorem labelled_append (part : kind.Part) :
    kind.labelled (parts ++ [part]) = kind.labelled parts ++ [(kind.id part, kind.content part)] :=
  List.map_append

theorem map_snd_labelled : (kind.labelled parts).map Prod.snd = parts.map kind.content := by
  rw [labelled, List.map_map]
  rfl

theorem length_labelled : (kind.labelled parts).length = parts.length :=
  List.length_map _

theorem find?_labelled :
    (kind.labelled parts).find? (fun p => p.1 = i) =
      (parts.find? fun part => kind.id part == i).map fun part =>
        (kind.id part, kind.content part) := by
  rw [labelled, List.find?_map]
  rfl

/-- A change of the parts under an id. -/
theorem labelled_update {change : kind.Part → kind.Part} {f : kind.Part → kind.Part}
    (h : ∀ part, kind.id part = i →
      kind.id (change part) = i ∧ kind.content (change part) = f (kind.content part)) :
    kind.labelled (parts.map fun part => if kind.id part = i then change part else part) =
      (kind.labelled parts).map fun p => if p.1 = i then (p.1, f p.2) else p := by
  rw [labelled, labelled, List.map_map, List.map_map]
  refine List.map_congr_left fun part _ => ?_
  by_cases hid : kind.id part = i
  · rw [Function.comp_apply, Function.comp_apply, if_pos hid, if_pos hid, (h part hid).1,
      (h part hid).2, hid]
  · rw [Function.comp_apply, Function.comp_apply, if_neg hid, if_neg hid]

theorem labelled_filter :
    kind.labelled (parts.filter fun part => kind.id part != i) =
      (kind.labelled parts).filter fun p => p.1 ≠ i := by
  rw [labelled, labelled, List.filter_map]
  refine congrArg _ (List.filter_congr fun part _ => ?_)
  by_cases hid : kind.id part = i <;> simp [hid]

end PartKind

namespace Graph.Realizes

variable [Coordinate α] {g : Graph α} {e : Edit α} {kind : PartKind} {id : PartName → Nat}
  {err : GraphError}

theorem add {make : List kind.Part → Except GraphError kind.Part} {part : kind.Part}
    (hmake : make ((g.parts kind).map kind.content) = .ok (kind.content part))
    (hid : kind.id part = g.nextId)
    (h : g.Yields e (some g.nextId) (g.toDiagram.withParts kind (g.parts kind ++ [part]))) :
    g.Realizes e kind ((Plan.add make).run id g.nextId (kind.labelled (g.parts kind))) := by
  have haccepted := accepted h
  rw [PartKind.labelled_append, hid] at haccepted
  rw [Plan.run, PartKind.map_snd_labelled, hmake]
  exact haccepted

theorem add_refused {make : List kind.Part → Except GraphError kind.Part}
    (hmake : make ((g.parts kind).map kind.content) = .error err) (h : g.answer e = .error err) :
    g.Realizes e kind ((Plan.add make).run id g.nextId (kind.labelled (g.parts kind))) := by
  rw [Plan.run, PartKind.map_snd_labelled, hmake]
  exact refused h

theorem update {name : PartName} {change : kind.Part → Except GraphError (kind.Part → kind.Part)}
    {part : kind.Part} {change' f : kind.Part → kind.Part}
    (hpart : (g.parts kind).find? (fun part => kind.id part == id name) = some part)
    (hchange : change (kind.content part) = .ok f)
    (hf : ∀ part, kind.id part = id name →
      kind.id (change' part) = id name ∧ kind.content (change' part) = f (kind.content part))
    (h : g.Yields e none (g.toDiagram.withParts kind
      ((g.parts kind).map fun part => if kind.id part = id name then change' part else part))) :
    g.Realizes e kind
      ((Plan.update name change).run id g.nextId (kind.labelled (g.parts kind))) := by
  have haccepted := accepted h
  rw [PartKind.labelled_update hf] at haccepted
  simp only [Plan.run, PartKind.find?_labelled, hpart, Option.map_some, hchange]
  exact haccepted

theorem update_refused {name : PartName}
    {change : kind.Part → Except GraphError (kind.Part → kind.Part)} {part : kind.Part}
    (hpart : (g.parts kind).find? (fun part => kind.id part == id name) = some part)
    (hchange : change (kind.content part) = .error err) (h : g.answer e = .error err) :
    g.Realizes e kind
      ((Plan.update name change).run id g.nextId (kind.labelled (g.parts kind))) := by
  simp only [Plan.run, PartKind.find?_labelled, hpart, Option.map_some, hchange]
  exact refused h

theorem remove {name : PartName}
    (h : g.Yields e none (g.toDiagram.withParts kind
      ((g.parts kind).filter fun part => kind.id part != id name))) :
    g.Realizes e kind ((Plan.remove name).run id g.nextId (kind.labelled (g.parts kind))) := by
  have haccepted := accepted h
  rw [PartKind.labelled_filter] at haccepted
  exact haccepted

/-- The tables, the database and the parts of other kinds stay. -/
theorem frame {r : Except GraphError (Option Nat × List (Nat × kind.Part))}
    (h : g.Realizes e kind r) :
    (g.apply e).tables = g.tables ∧ (g.apply e).database = g.database ∧
      ∀ other ≠ kind, (g.apply e).parts other = g.parts other := by
  cases h with
  | refused h =>
      rw [toDiagram_of_refused h]
      exact ⟨rfl, rfl, fun _ _ => rfl⟩
  | accepted h =>
      rw [h.2]
      exact ⟨Diagram.tables_withParts .., Diagram.database_withParts ..,
        fun _ hne => Diagram.parts_withParts_of_ne _ _ _ hne⟩

end Graph.Realizes

namespace PartEdit

variable [Coordinate α] {g : Graph α} {id : PartName → Nat} {kind : PartKind}

open QueryBuilder.Graph

theorem realizes_addJoin (link : Link) :
    g.Realizes ((addJoin link).edit id) .join
      (((addJoin link).plan g.tables).run id g.nextId (PartKind.join.labelled g.joins)) := by
  cases h : g.checkLink link with
  | error err =>
      refine .add_refused ?_ (answer_addJoin_of_link h)
      rw [Diagram.checkLink_ofTables, h]
      rfl
  | ok =>
      refine .add ?_ rfl (yields_addJoin h)
      rw [Diagram.checkLink_ofTables, h]
      rfl

theorem realizes_updateJoin {name : PartName} {j : Join} (hj : g.join? (id name) = some j)
    (change : LinkChange) :
    g.Realizes ((updateJoin name change).edit id) .join
      (((updateJoin name change).plan g.tables).run id g.nextId
        (PartKind.join.labelled g.joins)) := by
  cases h : g.checkLink (change.apply j.toLink) with
  | error err =>
      exact .update_refused hj (congrArg (Except.map _) h) (answer_updateJoin_of_link hj h)
  | ok =>
      refine .update hj (congrArg (Except.map _) h) ?_ (yields_updateJoin hj h)
      exact fun _ _ => ⟨rfl, rfl⟩

theorem realizes_addColumn (table : Nat) (field : Int) :
    g.Realizes ((addColumn table field).edit id) .column
      (((addColumn table field).plan g.tables).run id g.nextId
        (PartKind.column.labelled g.columns)) := by
  cases h : g.use table field with
  | error err =>
      refine .add_refused ?_ (answer_addColumn_of_use h)
      rw [Diagram.use_ofTables, h]
      rfl
  | ok use =>
      cases hcheck : g.checkUnused use with
      | error err =>
          refine .add_refused ?_ (answer_addColumn_of_used h hcheck)
          rw [Diagram.use_ofTables, h]
          exact congrArg (Except.map _) ((g.checkUnused_content use).trans hcheck)
      | ok =>
          refine .add ?_ rfl (yields_addColumn h hcheck)
          rw [Diagram.use_ofTables, h]
          exact congrArg (Except.map _) ((g.checkUnused_content use).trans hcheck)

theorem realizes_reorderColumns (src dst : Nat) :
    g.Realizes ((reorderColumns src dst).edit id) .column
      (((reorderColumns src dst).plan g.tables).run id g.nextId
        (PartKind.column.labelled g.columns)) := by
  rw [plan, Plan.run, PartKind.length_labelled]
  by_cases hsrc : g.columns.length ≤ src
  · rw [if_pos hsrc]
    exact .refused (answer_reorderColumns_of_src hsrc)
  · rw [if_neg hsrc]
    by_cases hdst : g.columns.length ≤ dst
    · rw [if_pos hdst]
      exact .refused (answer_reorderColumns_of_dst hsrc hdst)
    · rw [if_neg hdst, PartKind.labelled, moveItem_map]
      exact .accepted (yields_reorderColumns hsrc hdst)

theorem realizes_addFilter (table : Nat) (field : Int) :
    g.Realizes ((addFilter table field).edit id) .filter
      (((addFilter table field).plan g.tables).run id g.nextId
        (PartKind.filter.labelled g.filters)) := by
  cases h : g.use table field with
  | error err =>
      refine .add_refused ?_ (answer_addFilter_of_use h)
      rw [Diagram.use_ofTables, h]
      rfl
  | ok use =>
      refine .add ?_ rfl (yields_addFilter h)
      rw [Diagram.use_ofTables, h]
      rfl

theorem realizes_updateFilter {name : PartName} {f : Filter} (hf : g.filter? (id name) = some f)
    (change : FilterChange) :
    g.Realizes ((updateFilter name change).edit id) .filter
      (((updateFilter name change).plan g.tables).run id g.nextId
        (PartKind.filter.labelled g.filters)) := by
  cases h : change.check f.baseType with
  | error err =>
      refine .update_refused hf (congrArg (Except.map _) h) ?_
      cases hcomparison : change.comparison with
      | none =>
          rw [FilterChange.check, hcomparison] at h
          cases h
      | some comparison =>
          rw [FilterChange.check, hcomparison] at h
          exact answer_updateFilter_of_comparison hf hcomparison h
  | ok =>
      have hadmits : ∀ comparison ∈ change.comparison,
          Diagram.checkComparison comparison f.baseType = .ok () := by
        intro comparison hcomparison
        rw [FilterChange.check, Option.mem_def.1 hcomparison] at h
        exact h
      refine .update hf (congrArg (Except.map _) h) ?_ (yields_updateFilter hf hadmits)
      exact fun _ hid => ⟨hid, rfl⟩

/-- **Edits of a graph carry out their plans** on the parts of their kind, if the part that they
name is there. -/
theorem realizes (e : PartEdit kind)
    (hnamed : ∀ name ∈ e.part?, ∃ part ∈ g.parts kind, kind.id part = id name) :
    g.Realizes (e.edit id) kind
      ((e.plan g.tables).run id g.nextId (kind.labelled (g.parts kind))) := by
  have hfind : ∀ name ∈ e.part?, ∃ part,
      (g.parts kind).find? (fun part => kind.id part == id name) = some part := by
    intro name hname
    obtain ⟨part, hpart, hid⟩ := hnamed name hname
    exact Option.isSome_iff_exists.1 (List.find?_isSome.2 ⟨part, hpart, beq_iff_eq.2 hid⟩)
  cases e with
  | addJoin link => exact realizes_addJoin link
  | updateJoin name change =>
      obtain ⟨j, hj⟩ := hfind name rfl
      exact realizes_updateJoin hj change
  | removeJoin name =>
      obtain ⟨j, hj⟩ := hfind name rfl
      exact .remove (yields_removeJoin hj)
  | addColumn table field => exact realizes_addColumn table field
  | updateColumn name change =>
      obtain ⟨c, hc⟩ := hfind name rfl
      refine .update hc rfl ?_ (yields_updateColumn hc change)
      exact fun _ hid => ⟨hid, rfl⟩
  | removeColumn name =>
      obtain ⟨c, hc⟩ := hfind name rfl
      exact .remove (yields_removeColumn hc)
  | reorderColumns src dst => exact realizes_reorderColumns src dst
  | addFilter table field => exact realizes_addFilter table field
  | updateFilter name change =>
      obtain ⟨f, hf⟩ := hfind name rfl
      exact realizes_updateFilter hf change
  | removeFilter name =>
      obtain ⟨f, hf⟩ := hfind name rfl
      exact .remove (yields_removeFilter hf)

end PartEdit

end QueryBuilder
