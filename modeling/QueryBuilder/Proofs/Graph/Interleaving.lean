/-
**Edits of different kinds commute.**

Take some edits of joins, some of columns and some of filters, each in an order of their own.  They
can be put together in many orders, and all of them come to the same: each edit gets the same
answer, and the graphs have the same parts and the same query.  What does differ is the ids of the
parts that are added, since all kinds share one count.

So edits cannot name such parts by their ids.  An edit names the step, among the edits of its kind,
that added the part.  The proof follows the parts of each kind under such names: an edit of the kind
carries out its plan on them, an edit of another kind leaves them alone, and so an order of all
edits does to them what the edits of the kind do by themselves.

That a part has one name is due to the count.  An id is handed out above all ids that were handed
out before and above all that are in use; but an id that a loaded graph brought along and that was
taken away since may be handed out again, and is then the id of the new part.

Main definitions:

* `QueryBuilder.PartName.of`, `QueryBuilder.PartName.id` — the name of a part, and its id;
* `QueryBuilder.Progress` — how far some edits of parts got;
* `QueryBuilder.Progress.AllNamed` — all edits name parts that are there;
* `QueryBuilder.Tray` — the parts of one kind, under their names;
* `QueryBuilder.Interleaves` — edits of all kinds put together in an order.

Main results:

* `QueryBuilder.Progress.Sound.tray_step`, `QueryBuilder.Progress.tray_step_of_ne` — edits of a
  kind, and edits of another kind;
* `QueryBuilder.Progress.Sound.run` — all edits do to the parts of a kind what those of the kind do;
* `QueryBuilder.Progress.interleavings_agree` — **edits of different kinds commute**.
-/

import QueryBuilder.Proofs.Graph.IssuedIds
import QueryBuilder.Proofs.Graph.PartEdits

set_option autoImplicit false

namespace QueryBuilder

variable {α : Type}

/-! ### Names -/

namespace PartName

/-- The id of a part, when the steps so far added parts under certain ids. -/
def id (added : List (Option Nat)) : PartName → Nat
  | old id => id
  | new step => (added[step]?.join).getD 0

/-- The name of the part that has an id. -/
def of (added : List (Option Nat)) (id : Nat) : PartName :=
  match added.idxOf? (some id) with
  | some step => new step
  | none => old id

variable {added : List (Option Nat)} {i : Nat}

/-- The id of the part that has an id is this id. -/
theorem id_of : (of added i).id added = i := by
  rw [of]
  cases h : added.idxOf? (some i) with
  | none => rfl
  | some step =>
      obtain ⟨hlt, hstep, -⟩ := List.idxOf?_eq_some_iff.1 h
      simp [id, List.getElem?_eq_getElem hlt, hstep]

/-- Parts are told apart by their names. -/
theorem of_inj {j : Nat} : of added i = of added j ↔ i = j :=
  ⟨fun h => by rw [← @id_of added i, h, id_of], fun h => by rw [h]⟩

/-- Parts keep their names when a step adds another part, or none. -/
theorem of_append {next : Option Nat} (h : next ≠ some i) :
    of (added ++ [next]) i = of added i := by
  have hlast : [next].findIdx? (· == some i) = none := by simpa using h
  simp only [of, List.idxOf?, List.findIdx?_append, hlast, Option.map_none, Option.or_none]

/-- The part that a step adds is named by the step. -/
theorem of_append_self (h : some i ∉ added) : of (added ++ [some i]) i = new added.length := by
  have hfirst : added.findIdx? (· == some i) = none := List.idxOf?_eq_none_iff.2 h
  have hlast : [some i].findIdx? (· == some i) = some 0 := by simp
  simp only [of, List.idxOf?, List.findIdx?_append, hfirst, hlast, Option.none_or,
    Option.map_some, Nat.zero_add]

end PartName

/-! ### Edits of all kinds -/

/-- The edit, if it is one of the parts of a kind. -/
def PartEdit.ofKind? : (kind : PartKind) → Sigma PartEdit → Option (PartEdit kind)
  | .join, ⟨.join, e⟩ => some e
  | .column, ⟨.column, e⟩ => some e
  | .filter, ⟨.filter, e⟩ => some e
  | _, _ => none

namespace PartEdit

variable {kind : PartKind} (e : PartEdit kind) (edits : List (Sigma PartEdit))

theorem filterMap_ofKind?_cons :
    ((⟨kind, e⟩ : Sigma PartEdit) :: edits).filterMap (ofKind? kind) =
      e :: edits.filterMap (ofKind? kind) :=
  List.filterMap_cons_some (by cases kind <;> rfl)

theorem filterMap_ofKind?_cons_of_ne {other : PartKind} (h : other ≠ kind) :
    ((⟨kind, e⟩ : Sigma PartEdit) :: edits).filterMap (ofKind? other) =
      edits.filterMap (ofKind? other) := by
  refine List.filterMap_cons_none ?_
  cases kind <;> cases other
  case join.join | column.column | filter.filter => exact absurd rfl h
  all_goals rfl

end PartEdit

/-- Edits of all kinds are put together in an order that keeps the order of each kind. -/
def Interleaves (lists : (kind : PartKind) → List (PartEdit kind)) (edits : List (Sigma PartEdit)) :
    Prop :=
  ∀ kind, edits.filterMap (PartEdit.ofKind? kind) = lists kind

/-- How far some edits of parts got: the graph, and what the edits of each kind were answered. -/
structure Progress (α : Type) where
  graph : Graph α
  answers : PartKind → List (Except GraphError (Option Nat))

namespace Progress

/-- No edit was made so far. -/
def start (g : Graph α) : Progress α :=
  ⟨g, fun _ => []⟩

/-- For each edit of a kind, the id of the part that it added, if it did. -/
def added (p : Progress α) (kind : PartKind) : List (Option Nat) :=
  (p.answers kind).map fun answer => answer.toOption.join

/-- What the parts of a kind say, under their names. -/
def parts (p : Progress α) (kind : PartKind) : List (PartName × kind.Part) :=
  (p.graph.parts kind).map fun part => (.of (p.added kind) (kind.id part), kind.content part)

/-- Whether the edits of a kind were accepted, or why they were refused. -/
def verdicts (p : Progress α) (kind : PartKind) : List (Except GraphError Unit) :=
  (p.answers kind).map fun answer => answer.map fun _ => ()

/-- The part that an edit names is there. -/
def Named (p : Progress α) (e : Sigma PartEdit) : Prop :=
  ∀ name ∈ e.2.part?, name ∈ (p.parts e.1).map Prod.fst

/-- An edit with the ids of the parts that it names. -/
def edit (p : Progress α) (e : Sigma PartEdit) : Edit α :=
  e.2.edit (PartName.id (p.added e.1))

variable [Coordinate α]

/-- The next edit. -/
def step (p : Progress α) (e : Sigma PartEdit) : Progress α :=
  { graph := p.graph.apply (p.edit e)
    answers := Function.update p.answers e.1 (p.answers e.1 ++ [p.graph.answer (p.edit e)]) }

/-- Some edits, the first of which comes first. -/
def run (p : Progress α) (edits : List (Sigma PartEdit)) : Progress α :=
  edits.foldl step p

/-- Each edit names a part that is there when its turn comes. -/
def AllNamed (p : Progress α) : List (Sigma PartEdit) → Prop
  | [] => True
  | e :: edits => p.Named e ∧ (p.step e).AllNamed edits

instance (p : Progress α) (e : Sigma PartEdit) : Decidable (p.Named e) :=
  inferInstanceAs (Decidable (∀ name ∈ e.2.part?, name ∈ (p.parts e.1).map Prod.fst))

instance decidableAllNamed : (p : Progress α) → (edits : List (Sigma PartEdit)) →
    Decidable (p.AllNamed edits)
  | _, [] => .isTrue trivial
  | p, e :: edits =>
    have := decidableAllNamed (p.step e) edits
    inferInstanceAs (Decidable (p.Named e ∧ (p.step e).AllNamed edits))

end Progress

/-! ### The parts of one kind -/

/-- The parts of a kind under their names, and the answers to the edits of the kind. -/
structure Tray (kind : PartKind) where
  parts : List (PartName × kind.Part)
  verdicts : List (Except GraphError Unit)

namespace Tray

variable {kind : PartKind}

/-- Carries out a plan.  What it adds is named by the number of edits before. -/
def step (t : Tray kind) (plan : Plan kind.Part) : Tray kind :=
  match plan.run (fun name => name) (.new t.verdicts.length) t.parts with
  | .ok (_, parts) => ⟨parts, t.verdicts ++ [.ok ()]⟩
  | .error err => ⟨t.parts, t.verdicts ++ [.error err]⟩

/-- Some edits of the kind. -/
def run (tables : List (PlacedTable α)) (t : Tray kind) (edits : List (PartEdit kind)) :
    Tray kind :=
  edits.foldl (fun t e => t.step (e.plan tables)) t

/-- Each edit names a part that is there when its turn comes. -/
def AllNamed (tables : List (PlacedTable α)) (t : Tray kind) : List (PartEdit kind) → Prop
  | [] => True
  | e :: edits =>
    (∀ name ∈ e.part?, name ∈ t.parts.map Prod.fst) ∧ (t.step (e.plan tables)).AllNamed tables edits

end Tray

namespace Progress

/-- What the progress comes to for one kind. -/
def tray (p : Progress α) (kind : PartKind) : Tray kind :=
  ⟨p.parts kind, p.verdicts kind⟩

/-- All ids that were handed out are counted. -/
def Sound (p : Progress α) : Prop :=
  ∀ kind id, some id ∈ p.added kind → id ≤ p.graph.lastId

theorem sound_start (g : Graph α) : (start g).Sound := by
  intro kind id h
  cases h

variable {p : Progress α} {kind : PartKind} {e : PartEdit kind}

theorem edit_ne_reset : p.edit ⟨kind, e⟩ ≠ .reset := by
  cases e <;> nofun

/-- The name that a part has, or that it gets when it is the next one to be added. -/
def nextName (p : Progress α) (kind : PartKind) : Nat → PartName :=
  .of (p.added kind ++ [some p.graph.nextId])

theorem nextName_of_mem {i : Nat} (h : i ∈ p.graph.ids) :
    p.nextName kind i = .of (p.added kind) i :=
  PartName.of_append fun hi => Graph.nextId_not_mem (Option.some_inj.1 hi ▸ h)

/-- An id that was not handed out before is that of the next part. -/
theorem Sound.nextName_nextId (h : p.Sound) :
    p.nextName kind p.graph.nextId = .new (p.added kind).length :=
  PartName.of_append_self fun hmem =>
    absurd (h kind _ hmem) (Nat.not_le_of_lt p.graph.lastId_lt_nextId)

theorem parts_eq :
    p.parts kind =
      (kind.labelled (p.graph.parts kind)).map (Prod.map (p.nextName kind) id) := by
  rw [parts, PartKind.labelled, List.map_map]
  refine List.map_congr_left fun part hpart => ?_
  rw [← nextName_of_mem (Diagram.id_mem_ids _ _ hpart)]
  rfl

variable [Coordinate α]

theorem added_step :
    (p.step ⟨kind, e⟩).added kind = p.added kind ++ [p.graph.issue? (p.edit ⟨kind, e⟩)] := by
  simp [added, step, Graph.issue?]

theorem added_step_of_ne {other : PartKind} (h : other ≠ kind) :
    (p.step ⟨kind, e⟩).added other = p.added other := by
  simp [added, step, Function.update_of_ne h]

theorem verdicts_step :
    (p.step ⟨kind, e⟩).verdicts kind =
      p.verdicts kind ++ [(p.graph.answer (p.edit ⟨kind, e⟩)).map fun _ => ()] := by
  simp [verdicts, step]

theorem verdicts_step_of_ne {other : PartKind} (h : other ≠ kind) :
    (p.step ⟨kind, e⟩).verdicts other = p.verdicts other := by
  simp [verdicts, step, Function.update_of_ne h]

/-- Ids are counted by one more edit. -/
theorem Sound.step (h : p.Sound) : (p.step ⟨kind, e⟩).Sound := by
  intro other id hid
  have hle : p.graph.lastId ≤ (p.step ⟨kind, e⟩).graph.lastId :=
    p.graph.lastId_le_apply edit_ne_reset
  by_cases hother : other = kind
  · subst hother
    rw [added_step, List.mem_append, List.mem_singleton] at hid
    obtain hid | hid := hid
    · exact (h other id hid).trans hle
    · have hlast : (p.step ⟨other, e⟩).graph.lastId = _ := p.graph.lastId_apply edit_ne_reset
      rw [← hid] at hlast
      exact hlast.ge
  · rw [added_step_of_ne hother] at hid
    exact (h other id hid).trans hle

/-- After an edit, parts have the names that they had, and the part that was added has the next. -/
theorem parts_step :
    (p.step ⟨kind, e⟩).parts kind =
      (kind.labelled ((p.step ⟨kind, e⟩).graph.parts kind)).map
        (Prod.map (p.nextName kind) id) := by
  have hname : ∀ i ∈ (p.step ⟨kind, e⟩).graph.ids,
      PartName.of ((p.step ⟨kind, e⟩).added kind) i = p.nextName kind i := by
    intro i hi
    rw [added_step]
    -- the next id is in use only if it was handed out just now
    by_cases hnext : i = p.graph.nextId
    · obtain hmem | hissue := Graph.mem_ids_apply hi
      · exact absurd (hnext ▸ hmem) Graph.nextId_not_mem
      · rw [hissue, nextName, ← hnext]
    · rw [nextName, PartName.of_append, PartName.of_append]
      · exact fun h => hnext (Option.some_inj.1 h).symm
      · exact fun h => hnext (Graph.issue?_eq_nextId h)
  rw [parts, PartKind.labelled, List.map_map]
  refine List.map_congr_left fun part hpart => ?_
  rw [hname _ (Diagram.id_mem_ids _ _ hpart)]
  rfl

/-! ### Edits of a kind, and of other kinds -/

/-- An edit that names a part that is there carries out its plan. -/
theorem Named.realizes (h : p.Named ⟨kind, e⟩) :
    p.graph.Realizes (p.edit ⟨kind, e⟩) kind
      ((e.plan p.graph.tables).run (PartName.id (p.added kind)) p.graph.nextId
        (kind.labelled (p.graph.parts kind))) := by
  refine e.realizes fun name hname => ?_
  obtain ⟨_, hmem, rfl⟩ := List.mem_map.1 (h name hname)
  obtain ⟨part, hpart, rfl⟩ := List.mem_map.1 hmem
  exact ⟨part, hpart, PartName.id_of.symm⟩

omit [Coordinate α] in
/-- The plan of such an edit makes of the named parts what it makes of the parts under their ids. -/
theorem Sound.run_plan (h : p.Sound) (hnamed : p.Named ⟨kind, e⟩) :
    (e.plan p.graph.tables).run (fun name => name) (.new (p.verdicts kind).length)
        (p.parts kind) =
      ((e.plan p.graph.tables).run (PartName.id (p.added kind)) p.graph.nextId
        (kind.labelled (p.graph.parts kind))).map
          (Prod.map (Option.map (p.nextName kind)) (List.map (Prod.map (p.nextName kind) id))) := by
  rw [parts_eq]
  refine Plan.run_relabelled ?_ fun name hname q hq => ?_
  · rw [h.nextName_nextId, added, verdicts, List.length_map, List.length_map]
  · rw [PartEdit.part?_plan] at hname
    obtain ⟨_, hmem, rfl⟩ := List.mem_map.1 (hnamed name hname)
    obtain ⟨part, hpart, rfl⟩ := List.mem_map.1 hmem
    obtain ⟨other, hother, rfl⟩ := List.mem_map.1 hq
    rw [nextName_of_mem (Diagram.id_mem_ids _ _ hother), PartName.of_inj, PartName.id_of]

/-- **An edit carries out its plan** on the named parts of its kind. -/
theorem Sound.tray_step (h : p.Sound) (hnamed : p.Named ⟨kind, e⟩) :
    (p.step ⟨kind, e⟩).tray kind = (p.tray kind).step (e.plan p.graph.tables) := by
  have hrun := h.run_plan hnamed
  have hrealizes := hnamed.realizes
  -- what the plan comes to under ids decides both what the graph does and what the tray does
  generalize (e.plan p.graph.tables).run (PartName.id (p.added kind)) p.graph.nextId
    (kind.labelled (p.graph.parts kind)) = r at hrun hrealizes
  rw [tray, parts_step, verdicts_step]
  cases hrealizes with
  | refused hanswer =>
      have hgraph : (p.step ⟨kind, e⟩).graph.toDiagram = p.graph.toDiagram :=
        Graph.toDiagram_of_refused hanswer
      simp only [Tray.step, tray, hrun]
      rw [hgraph, hanswer, ← parts_eq]
      rfl
  | accepted hyields =>
      have hgraph : (p.step ⟨kind, e⟩).graph.toDiagram = _ := hyields.2
      simp only [Tray.step, tray, hrun]
      rw [hgraph, hyields.1, Diagram.parts_withParts]
      rfl

/-- **An edit of another kind leaves the named parts alone.** -/
theorem tray_step_of_ne (hnamed : p.Named ⟨kind, e⟩) {other : PartKind} (hne : other ≠ kind) :
    (p.step ⟨kind, e⟩).tray other = p.tray other := by
  have hparts : (p.step ⟨kind, e⟩).graph.parts other = p.graph.parts other :=
    hnamed.realizes.frame.2.2 other hne
  rw [tray, tray, parts, parts, hparts, added_step_of_ne hne, verdicts_step_of_ne hne]

/-! ### All edits -/

/-- **Whether edits name what is there is told by each kind by itself.** -/
theorem Sound.allNamed_iff (h : p.Sound) {edits : List (Sigma PartEdit)} :
    p.AllNamed edits ↔ ∀ kind,
      (p.tray kind).AllNamed p.graph.tables (edits.filterMap (PartEdit.ofKind? kind)) := by
  induction edits generalizing p with
  | nil => exact ⟨fun _ _ => trivial, fun _ => trivial⟩
  | cons e edits ih =>
      obtain ⟨kind, e⟩ := e
      -- the first edit is a step of one tray, and the other trays wait for edits of their own
      have htrays (hnamed : p.Named ⟨kind, e⟩) (other : PartKind) :
          (p.tray other).AllNamed p.graph.tables
              ((⟨kind, e⟩ :: edits).filterMap (PartEdit.ofKind? other)) ↔
            ((p.step ⟨kind, e⟩).tray other).AllNamed (p.step ⟨kind, e⟩).graph.tables
              (edits.filterMap (PartEdit.ofKind? other)) := by
        have htables : (p.step ⟨kind, e⟩).graph.tables = p.graph.tables :=
          hnamed.realizes.frame.1
        by_cases hother : other = kind
        · subst hother
          rw [PartEdit.filterMap_ofKind?_cons, h.tray_step hnamed, htables]
          exact and_iff_right hnamed
        · rw [PartEdit.filterMap_ofKind?_cons_of_ne _ _ hother, tray_step_of_ne hnamed hother,
            htables]
      constructor
      · rintro ⟨hnamed, hrest⟩ other
        exact (htrays hnamed other).2 (ih h.step |>.1 hrest other)
      · intro hall
        have hnamed : p.Named ⟨kind, e⟩ := by
          have hkind := hall kind
          rw [PartEdit.filterMap_ofKind?_cons] at hkind
          exact hkind.1
        exact ⟨hnamed, (ih h.step).2 fun other => (htrays hnamed other).1 (hall other)⟩

/-- **All edits do to the parts of a kind what those of the kind do**, and nothing to the tables. -/
theorem Sound.run (h : p.Sound) {edits : List (Sigma PartEdit)} (hnamed : p.AllNamed edits) :
    (p.run edits).graph.tables = p.graph.tables ∧
    (p.run edits).graph.database = p.graph.database ∧
    ∀ kind, (p.run edits).tray kind =
      (p.tray kind).run p.graph.tables (edits.filterMap (PartEdit.ofKind? kind)) := by
  induction edits generalizing p with
  | nil => exact ⟨rfl, rfl, fun _ => rfl⟩
  | cons e edits ih =>
      obtain ⟨kind, e⟩ := e
      obtain ⟨hnamed, hrest⟩ := hnamed
      obtain ⟨htables, hdatabase, -⟩ := hnamed.realizes.frame
      obtain ⟨htables', hdatabase', htrays⟩ := ih h.step hrest
      refine ⟨htables'.trans htables, hdatabase'.trans hdatabase, fun other => ?_⟩
      refine (htrays other).trans ?_
      have hstep : (p.step ⟨kind, e⟩).graph.tables = p.graph.tables := htables
      rw [hstep]
      by_cases hother : other = kind
      · subst hother
        rw [PartEdit.filterMap_ofKind?_cons, h.tray_step hnamed]
        rfl
      · rw [PartEdit.filterMap_ofKind?_cons_of_ne _ _ hother, tray_step_of_ne hnamed hother]

/-- **Edits of different kinds commute.**  Take edits of joins, of columns and of filters, put
together in two orders that both keep the order of each kind.  If in the first order each edit names
a part that is there, then so it does in the second.  Each edit gets the same answer in both, or is
refused for the same reason.  The parts say the same and stand in the same order, old ones under the
same ids and new ones added by the same steps, and the query is the same. -/
theorem interleavings_agree (g : Graph α) (lists : (kind : PartKind) → List (PartEdit kind))
    {edits edits' : List (Sigma PartEdit)} (h : Interleaves lists edits)
    (h' : Interleaves lists edits') (hnamed : (start g).AllNamed edits) :
    let p := (start g).run edits
    let p' := (start g).run edits'
    (start g).AllNamed edits' ∧
    (∀ kind, p'.verdicts kind = p.verdicts kind) ∧
    (∀ kind, p'.parts kind = p.parts kind) ∧
    p'.graph.tables = p.graph.tables ∧
    p'.graph.query? = p.graph.query? ∧
    p'.graph.executionRequest = p.graph.executionRequest := by
  intro p p'
  have hsound : (start g).Sound := sound_start g
  have hnamed' : (start g).AllNamed edits' := by
    rw [hsound.allNamed_iff] at hnamed ⊢
    intro kind
    rw [h' kind, ← h kind]
    exact hnamed kind
  obtain ⟨htables, hdatabase, htrays⟩ := hsound.run hnamed
  obtain ⟨htables', hdatabase', htrays'⟩ := hsound.run hnamed'
  have htray : ∀ kind, p'.tray kind = p.tray kind := by
    intro kind
    rw [htrays kind, htrays' kind, h' kind, h kind]
  have hparts : ∀ kind, p'.parts kind = p.parts kind := fun kind => congrArg Tray.parts (htray kind)
  have hquery : p'.graph.query? = p.graph.query? := by
    refine Diagram.query?_congr (htables'.trans htables.symm) fun kind => ?_
    have hcontents := congrArg (List.map Prod.snd) (hparts kind)
    rw [parts, parts, List.map_map, List.map_map] at hcontents
    exact hcontents
  refine ⟨hnamed', fun kind => congrArg Tray.verdicts (htray kind), hparts,
    htables'.trans htables.symm, hquery, ?_⟩
  rw [Diagram.executionRequest, Diagram.executionRequest, hquery, hdatabase, hdatabase']

/-- A join, a column and a filter are added, changed, and put in the place of old ones.  Some edits
are refused. -/
def sampleLists : (kind : PartKind) → List (PartEdit kind)
  | .join => [.addJoin ⟨2, 1, 21, 12, .inner⟩, .removeJoin (.old 3),
      .updateJoin (.new 0) ⟨none, none, some 20, some 11, none⟩, .addJoin ⟨1, 1, 10, 10, .left⟩]
  | .column => [.addColumn 1 10, .reorderColumns 2 0, .addColumn 1 10,
      .updateColumn (.new 0) ⟨some .max, some (some "last")⟩, .reorderColumns 7 3]
  | .filter => [.removeFilter (.old 7), .addFilter 2 21,
      .updateFilter (.new 1) ⟨some .gt, none, none⟩,
      .updateFilter (.new 1) ⟨some .contains, some (some (.text "x")), some .or⟩]

/-- The ids of the parts that are added differ. -/
theorem interleavings_agree_sample :
    let edits : List (Sigma PartEdit) :=
      (sampleLists .join).map (Sigma.mk _) ++ (sampleLists .column).map (Sigma.mk _) ++
        (sampleLists .filter).map (Sigma.mk _)
    let edits' : List (Sigma PartEdit) :=
      ((sampleLists .column).take 2).map (Sigma.mk _) ++ (sampleLists .filter).map (Sigma.mk _) ++
        (sampleLists .join).map (Sigma.mk _) ++ ((sampleLists .column).drop 2).map (Sigma.mk _)
    let p := (start Sample.graph).run edits
    let p' := (start Sample.graph).run edits'
    Sample.graph.Reachable ∧ Interleaves sampleLists edits ∧ Interleaves sampleLists edits' ∧
    (start Sample.graph).AllNamed edits ∧
    p.graph.columns.map (·.id) = [9, 4, 5] ∧ p'.graph.columns.map (·.id) = [8, 4, 5] ∧
    p'.graph.query? = p.graph.query? := by
  intro edits edits' p p'
  have hedits : Interleaves sampleLists edits := by
    intro kind
    cases kind <;> rfl
  have hedits' : Interleaves sampleLists edits' := by
    intro kind
    cases kind <;> rfl
  have hnamed : (start Sample.graph).AllNamed edits := by decide +kernel
  obtain ⟨-, -, -, -, hquery, -⟩ :=
    interleavings_agree Sample.graph sampleLists hedits hedits' hnamed
  refine ⟨Sample.reachable_graph, hedits, hedits', hnamed, ?_, ?_, hquery⟩ <;> decide +kernel

end Progress

end QueryBuilder
