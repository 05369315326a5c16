/-
**Ids that are handed out, and ids that come back.**

The four edits that add a part hand out one id each: the one above the largest of all ids that are in
use or were handed out before.  So it is above every id that the graph has at that moment, and above
every id that was handed out earlier, be the part still there or not.  An id that is gone, and not
above one that was handed out, never comes back: whatever is asked of it is answered by that there
is no such part.

Nothing else is remembered of ids.  The count of a loaded graph begins at zero, and catches up with
the ids that the graph brought along when the first id is handed out, as far as they are still in
use.  If the part with the largest of them was removed before, then ids of removed parts may come
back and name other parts.  This cannot happen to a graph that began without parts.

Main definitions:

* `QueryBuilder.Graph.issued` — the ids that are handed out during several edits;
* `QueryBuilder.Edit.Misses`, `QueryBuilder.Graph.Unknown` — what is answered if there is no part
  under an id;
* `QueryBuilder.Graph.NeverReuses` — no id comes back in any session of the graph.

Main results:

* `QueryBuilder.Graph.lastId_run`, `QueryBuilder.Graph.mem_ids_run` — the count and the ids after
  several edits;
* `QueryBuilder.Graph.unknown_of_not_mem` — ids that are not in use are unknown;
* `QueryBuilder.Graph.issued_ids_ascend` — **how ids are handed out, and which never come back**;
* `QueryBuilder.Graph.loaded_ids_reused` — ids of a loaded graph that come back.
-/

import QueryBuilder.Proofs.Graph.Effects
import QueryBuilder.Proofs.Graph.Reachability
import QueryBuilder.Proofs.Graph.Renaming

set_option autoImplicit false

namespace QueryBuilder

variable {α : Type}

namespace Graph

variable [Coordinate α] {g : Graph α}

/-! ### Ids in use -/

/-- **The ids that an accepted edit leaves in use were so before, or one was added.** -/
theorem Makes.mem_ids {e : Edit α} {added : Option Nat} {d : Diagram α} (h : g.Makes e added d)
    {id : Nat} (hid : id ∈ d.ids) : id ∈ g.ids ∨ added = some id := by
  have hadded : id ∈ g.nextId :: g.ids → id ∈ g.ids ∨ some g.nextId = some id := by
    intro hmem
    rcases List.mem_cons.1 hmem with rfl | hmem
    · exact .inr rfl
    · exact .inl hmem
  cases h with
  | setDatabase _ => exact .inl hid
  | addTable _ _ => exact hadded ((Diagram.ids_withTable g.toDiagram _ _).mem_iff.1 hid)
  | removeTable _ =>
      refine .inl ((Diagram.ids_sublist ?_ ?_ ?_ ?_).subset hid) <;>
        exact List.filter_sublist.map _
  | @moveTable moved _ position _ | @commitPosition moved _ position _ =>
      refine .inl ?_
      rwa [Diagram.ids, Diagram.Consistent.map_moved (fun t => t.id) moved position fun _ => rfl]
        at hid
  | commitNothing _ => exact .inl hid
  | addJoin _ => exact hadded ((Diagram.ids_withJoin g.toDiagram _).mem_iff.1 hid)
  | @updateJoin changed change j _ _ =>
      refine .inl ?_
      rwa [Diagram.ids, Diagram.map_update (fun k : Join => k.id) (fun k => k.id) changed
        (fun _ => { change.apply j.toLink with id := changed }) fun _ h => h.symm] at hid
  | removeJoin _ =>
      refine .inl ((Diagram.ids_sublist ?_ ?_ ?_ ?_).subset hid)
      exacts [.refl _, List.filter_sublist.map _, .refl _, .refl _]
  | addColumn _ _ => exact hadded ((Diagram.ids_withColumn g.toDiagram _).mem_iff.1 hid)
  | @updateColumn changed change _ _ =>
      refine .inl ?_
      rwa [Diagram.ids, Diagram.map_update (fun k : Column => k.id) (fun k => k.id) changed
        change.apply fun _ _ => rfl] at hid
  | removeColumn _ =>
      refine .inl ((Diagram.ids_sublist ?_ ?_ ?_ ?_).subset hid)
      exacts [.refl _, .refl _, List.filter_sublist.map _, .refl _]
  | @reorderColumns src dst _ hdst =>
      have hperm : (moveItem g.columns src dst).Perm g.columns := moveItem_perm hdst
      exact .inl ((((hperm.map _).append_left _).append_right _).mem_iff.1 hid)
  | addFilter _ => exact hadded ((Diagram.ids_withFilter g.toDiagram _).mem_iff.1 hid)
  | @updateFilter changed change _ _ _ =>
      refine .inl ?_
      rwa [Diagram.ids, Diagram.map_update (fun k : Filter => k.id) (fun k => k.id) changed
        change.apply fun _ _ => rfl] at hid
  | removeFilter _ =>
      refine .inl ((Diagram.ids_sublist ?_ ?_ ?_ ?_).subset hid)
      exacts [.refl _, .refl _, .refl _, List.filter_sublist.map _]
  | reset => cases hid
  | shows _ _ => exact .inl hid

/-- An id that is in use after an edit was so before, or was handed out. -/
theorem mem_ids_apply {e : Edit α} {id : Nat} (h : id ∈ (g.apply e).ids) :
    id ∈ g.ids ∨ g.issue? e = some id := by
  cases hanswer : g.answer e with
  | error err =>
      rw [toDiagram_of_refused hanswer] at h
      exact .inl h
  | ok added =>
      refine ((makes_of_answer hanswer).mem_ids h).imp_right fun hadded => ?_
      rw [issue?_eq_some, hanswer, hadded]

/-- The ids that are handed out during some edits, the first of which comes first. -/
def issued (g : Graph α) : List (Edit α) → List Nat
  | [] => []
  | e :: edits => (g.issue? e).toList ++ (g.apply e).issued edits

theorem mem_issued_cons {e : Edit α} {edits : List (Edit α)} {id : Nat} :
    id ∈ g.issued (e :: edits) ↔ g.issue? e = some id ∨ id ∈ (g.apply e).issued edits := by
  rw [issued, List.mem_append, Option.mem_toList]

variable {edits : List (Edit α)}

/-- **An id that is in use after some edits was so before, or was handed out by them.** -/
theorem mem_ids_run {id : Nat} (h : id ∈ (g.run edits).ids) : id ∈ g.ids ∨ id ∈ g.issued edits := by
  induction edits generalizing g with
  | nil => exact .inl h
  | cons e edits ih =>
      rw [mem_issued_cons]
      rcases ih h with hid | hid
      · exact (mem_ids_apply hid).imp_right .inl
      · exact .inr (.inr hid)

/-! ### The count -/

/-- The count after some edits is an id that was handed out, or what it was. -/
theorem lastId_run (hreset : .reset ∉ edits) :
    (g.run edits).lastId = g.lastId ∨ (g.run edits).lastId ∈ g.issued edits := by
  induction edits generalizing g with
  | nil => exact .inl rfl
  | cons e edits ih =>
      rw [List.mem_cons, not_or] at hreset
      rw [mem_issued_cons, run_cons]
      rcases ih (g := g.apply e) hreset.2 with hlast | hlast
      · rw [hlast, g.lastId_apply (Ne.symm hreset.1)]
        cases hissue : g.issue? e with
        | none => exact .inl rfl
        | some id => exact .inr (.inl rfl)
      · exact .inr (.inr hlast)

theorem lastId_le_run (hreset : .reset ∉ edits) : g.lastId ≤ (g.run edits).lastId := by
  induction edits generalizing g with
  | nil => exact Nat.le_refl _
  | cons e edits ih =>
      rw [List.mem_cons, not_or] at hreset
      exact Nat.le_trans (g.lastId_le_apply (Ne.symm hreset.1)) (ih hreset.2)

/-- **Ids that are handed out are above the count before, and within the count after.** -/
theorem lastId_of_mem_issued (hreset : .reset ∉ edits) {id : Nat} (h : id ∈ g.issued edits) :
    g.lastId < id ∧ id ≤ (g.run edits).lastId := by
  induction edits generalizing g with
  | nil => cases h
  | cons e edits ih =>
      rw [List.mem_cons, not_or] at hreset
      have hcount := g.lastId_apply (Ne.symm hreset.1)
      rcases mem_issued_cons.1 h with hissue | hlater
      · rw [hissue, Option.getD_some] at hcount
        refine ⟨?_, ?_⟩
        · rw [issue?_eq_nextId hissue]
          exact g.lastId_lt_nextId
        · rw [run_cons, ← hcount]
          exact lastId_le_run hreset.2
      · obtain ⟨habove, hwithin⟩ := ih hreset.2 hlater
        exact ⟨Nat.lt_of_le_of_lt (g.lastId_le_apply (Ne.symm hreset.1)) habove, hwithin⟩

/-- The largest of several numbers is one of them, or the one to begin with. -/
theorem foldl_max_mem (ids : List Nat) (start : Nat) :
    ids.foldl max start = start ∨ ids.foldl max start ∈ ids := by
  induction ids generalizing start with
  | nil => exact .inl rfl
  | cons first rest ih =>
      rw [List.foldl_cons]
      rcases ih (max start first) with hmax | hmem
      · rw [hmax, List.mem_cons]
        rcases Nat.le_total start first with hle | hle
        · exact .inr (.inl (Nat.max_eq_right hle))
        · exact .inl (Nat.max_eq_left hle)
      · exact .inr (List.mem_cons_of_mem _ hmem)

omit [Coordinate α] in
/-- What is below the next id is below the count, or below an id in use. -/
theorem lt_nextId_iff {k : Nat} : k < g.nextId ↔ k ≤ g.lastId ∨ ∃ id ∈ g.ids, k ≤ id := by
  have hmax : k < g.nextId ↔ k ≤ g.lastId ∨ k ≤ g.ids.foldl max 0 := by
    unfold nextId
    omega
  rw [hmax]
  constructor
  · rintro (hlast | hle)
    · exact .inl hlast
    · rcases foldl_max_mem g.ids 0 with hzero | hmem
      · exact .inl (by omega)
      · exact .inr ⟨_, hmem, hle⟩
  · rintro (hlast | ⟨id, hid, hle⟩)
    · exact .inl hlast
    · exact .inr (Nat.le_trans hle (le_foldl_max hid 0))

/-- The count of a graph with which a session starts is zero. -/
theorem Initial.lastId_eq (h : g.Initial) : g.lastId = 0 := by
  cases h with
  | empty settings => rfl
  | loaded hload =>
      obtain ⟨d, -, rfl⟩ := load_eq_ok.1 hload
      rfl

/-! ### Ids that are not in use -/

end Graph

/-- An edit is one of a part under an id, and is answered like this if there is no such part. -/
inductive Edit.Misses (id : Nat) : Edit α → GraphError → Prop where
  | removeTable : Misses id (.removeTable id) (.unknownTable id)
  | moveTable (position : Position α) : Misses id (.moveTable id position) (.unknownTable id)
  | addJoin {l : Link} (hsource : l.source = id) (htarget : l.target ≠ id) :
      Misses id (.addJoin l) (.unknownTable id)
  | updateJoin (change : LinkChange) : Misses id (.updateJoin id change) (.unknownJoin id)
  | removeJoin : Misses id (.removeJoin id) (.unknownJoin id)
  | addColumn (field : Int) : Misses id (.addColumn id field) (.unknownTable id)
  | updateColumn (change : ColumnChange) : Misses id (.updateColumn id change) (.unknownColumn id)
  | removeColumn : Misses id (.removeColumn id) (.unknownColumn id)
  | addFilter (field : Int) : Misses id (.addFilter id field) (.unknownTable id)
  | updateFilter (change : FilterChange) : Misses id (.updateFilter id change) (.unknownFilter id)
  | removeFilter : Misses id (.removeFilter id) (.unknownFilter id)

namespace Graph

variable [Coordinate α] {g : Graph α} {edits : List (Edit α)}

/-- Every edit of a part under an id is answered by that there is no such part. -/
def Unknown (g : Graph α) (id : Nat) : Prop :=
  ∀ e err, Edit.Misses id e err → g.answer e = .error err

/-- **Ids that are not in use are unknown.** -/
theorem unknown_of_not_mem {id : Nat} (h : id ∉ g.ids) : g.Unknown id := by
  have htable : g.table? id = none := by
    by_contra hsome
    obtain ⟨t, ht⟩ := Option.ne_none_iff_exists'.1 hsome
    exact h (Diagram.mem_ids_of_table? ht)
  have hjoin : g.join? id = none := by
    by_contra hsome
    obtain ⟨j, hj⟩ := Option.ne_none_iff_exists'.1 hsome
    exact h (Diagram.mem_ids_of_join? hj)
  have hcolumn : g.column? id = none := by
    by_contra hsome
    obtain ⟨c, hc⟩ := Option.ne_none_iff_exists'.1 hsome
    exact h (Diagram.mem_ids_of_column? hc)
  have hfilter : g.filter? id = none := by
    by_contra hsome
    obtain ⟨f, hf⟩ := Option.ne_none_iff_exists'.1 hsome
    exact h (Diagram.mem_ids_of_filter? hf)
  have huse : ∀ field, g.use id field = .error (.unknownTable id) := by
    intro field
    rw [Diagram.use, htable]
  intro e err hmisses
  cases hmisses with
  | removeTable => rw [answer, removeTable_eq, htable]; rfl
  | moveTable position => rw [answer, moveTable_eq, htable]; rfl
  | @addJoin l hsource htarget =>
      refine answer_addJoin_of_link ?_
      subst hsource
      rw [Diagram.checkLink, if_neg (Ne.symm htarget), Diagram.checkKey, htable]
      rfl
  | updateJoin change => rw [answer, updateJoin_eq, hjoin]; rfl
  | removeJoin => rw [answer, removeJoin_eq, hjoin]; rfl
  | addColumn field => exact answer_addColumn_of_use (huse field)
  | updateColumn change => rw [answer, updateColumn_eq, hcolumn]; rfl
  | removeColumn => rw [answer, removeColumn_eq, hcolumn]; rfl
  | addFilter field => exact answer_addFilter_of_use (huse field)
  | updateFilter change => rw [answer, updateFilter_eq, hfilter]; rfl
  | removeFilter => rw [answer, removeFilter_eq, hfilter]; rfl

/-! ### Sessions -/

/-- **Ids that were handed out during some edits are within the count.** -/
theorem le_lastId_of_issued (hreset : .reset ∉ edits) {j k : Nat} (hj : j ∈ g.issued edits)
    (hle : k ≤ j) : k ≤ (g.run edits).lastId :=
  Nat.le_trans hle (lastId_of_mem_issued hreset hj).2

/-- **The next id of a session** is the least one above those in use and those handed out. -/
theorem lt_nextId_run_iff {start : Graph α} (h : start.Initial) (hreset : .reset ∉ edits) {k : Nat} :
    k < (start.run edits).nextId ↔
      k = 0 ∨ ∃ j ∈ (start.run edits).ids ++ start.issued edits, k ≤ j := by
  rw [lt_nextId_iff]
  constructor
  · rintro (hlast | ⟨j, hj, hle⟩)
    · -- the count is zero, or an id that was handed out
      rcases lastId_run (g := start) hreset with hstart | hissued
      · rw [hstart, h.lastId_eq] at hlast
        exact .inl (Nat.le_zero.1 hlast)
      · exact .inr ⟨_, List.mem_append_right _ hissued, hlast⟩
    · exact .inr ⟨j, List.mem_append_left _ hj, hle⟩
  · rintro (rfl | ⟨j, hj, hle⟩)
    · exact .inl (Nat.zero_le _)
    · rcases List.mem_append.1 hj with hj | hj
      · exact .inr ⟨j, hj, hle⟩
      · exact .inl (le_lastId_of_issued hreset hj hle)

/-- An id that is not in use stays unknown for as long as it is not handed out. -/
theorem unknown_run {k : Nat} (hk : k ∉ g.ids) (hissued : k ∉ g.issued edits) :
    (g.run edits).Unknown k := by
  refine unknown_of_not_mem fun hid => ?_
  rcases mem_ids_run hid with hid | hid
  · exact hk hid
  · exact hissued hid

/-- **An id that is not above one that was handed out is not handed out any more.** -/
theorem not_mem_issued {later : List (Edit α)} (hreset : .reset ∉ edits) (hlater : .reset ∉ later)
    {j k : Nat} (hj : j ∈ g.issued edits) (hle : k ≤ j) : k ∉ (g.run edits).issued later := by
  intro hissued
  have habove := (lastId_of_mem_issued hlater hissued).1
  exact absurd (le_lastId_of_issued hreset hj hle) (Nat.not_le_of_lt habove)

/-- No id comes back in any session of the graph, if it does not drop everything: an id that is handed
out is above all that are in use, that the graph began with or that were handed out before, and each of
these stays unknown once it is not in use. -/
def NeverReuses (start : Graph α) : Prop :=
  ∀ edits, .reset ∉ edits →
    (∀ e id, (start.run edits).answer e = .ok (some id) →
      ∀ k ∈ (start.run edits).ids ++ start.ids ++ start.issued edits, k < id) ∧
    ∀ k ∈ start.ids ++ start.issued edits, k ∉ (start.run edits).ids →
      ∀ later, .reset ∉ later → ((start.run edits).run later).Unknown k

/-- **How ids are handed out, and which never come back.**  If a session begins without parts, then no
id comes back.  In general, take any edits that do not drop everything, from a graph with which a
session may begin.  An id that is handed out after them is above all that are in use and all that were
handed out by them.  It is the least such id, so one that the session began with is below it exactly if
it is zero or not above one of these.  An id that is not in use after the edits stays unknown for as
long as it is not handed out again; and it never is if it is not above one that was handed out. -/
theorem issued_ids_ascend {start : Graph α} (h : start.Initial) :
    (start.ids = [] → start.NeverReuses) ∧
    ∀ edits, .reset ∉ edits →
      (∀ e id, (start.run edits).answer e = .ok (some id) →
        (∀ k ∈ (start.run edits).ids, k < id) ∧ (∀ k ∈ start.issued edits, k < id) ∧
        ∀ k, k < id ↔ k = 0 ∨ ∃ j ∈ (start.run edits).ids ++ start.issued edits, k ≤ j) ∧
      ∀ k ∉ (start.run edits).ids, ∀ later, .reset ∉ later →
        (k ∉ (start.run edits).issued later → ((start.run edits).run later).Unknown k) ∧
        ((∃ j ∈ start.issued edits, k ≤ j) → k ∉ (start.run edits).issued later) := by
  have hanswered : ∀ edits, .reset ∉ edits → ∀ e id, (start.run edits).answer e = .ok (some id) →
      ∀ k, k < id ↔ k = 0 ∨ ∃ j ∈ (start.run edits).ids ++ start.issued edits, k ≤ j := by
    intro edits hreset e id hanswer k
    rw [issue?_eq_nextId (issue?_eq_some.2 hanswer)]
    exact lt_nextId_run_iff h hreset
  have habove : ∀ edits, .reset ∉ edits → ∀ e id, (start.run edits).answer e = .ok (some id) →
      ∀ k ∈ (start.run edits).ids ++ start.issued edits, k < id := by
    intro edits hreset e id hanswer k hk
    exact (hanswered edits hreset e id hanswer k).2 (.inr ⟨k, hk, Nat.le_refl k⟩)
  refine ⟨fun hempty edits hreset => ⟨fun e id hanswer => ?_, fun k hk hgone later hlater => ?_⟩,
    fun edits hreset => ⟨fun e id hanswer => ⟨?_, ?_, hanswered edits hreset e id hanswer⟩,
      fun k hgone later hlater => ⟨unknown_run hgone, ?_⟩⟩⟩
  · rw [hempty, List.append_nil]
    exact habove edits hreset e id hanswer
  · rw [hempty, List.nil_append] at hk
    exact unknown_run hgone (not_mem_issued hreset hlater hk (Nat.le_refl k))
  · exact fun k hk => habove edits hreset e id hanswer k (List.mem_append_left _ hk)
  · exact fun k hk => habove edits hreset e id hanswer k (List.mem_append_right _ hk)
  · rintro ⟨j, hj, hle⟩
    exact not_mem_issued hreset hlater hj hle

end Graph

/-- The graph that is loaded from the saved sample. -/
def Sample.loaded : Graph Float :=
  (Graph.load saved).toOption.getD (.empty .standard)

theorem Sample.load_saved : Graph.load saved = .ok loaded := by
  have hok : (Graph.load saved).isOk = true := by decide +kernel
  unfold loaded
  cases hload : Graph.load saved with
  | error e =>
      rw [hload] at hok
      cases hok
  | ok g => rfl

namespace Graph

/-- A filter is added to the loaded graph, and the join that was saved under the id 8 is removed: the
next id is above all of them, and the join does not come back. -/
theorem issued_ids_ascend_sample :
    let edits : List (Edit Float) := [.addFilter 7 10, .removeJoin 8]
    Sample.loaded.Initial ∧ .reset ∉ edits ∧
      (Sample.loaded.run edits).answer (.addColumn 7 12) = .ok (some 11) ∧
      (∀ k ∈ (Sample.loaded.run edits).ids, k < 11) ∧ 10 ∈ Sample.loaded.issued edits ∧
      8 ∈ Sample.loaded.ids ∧ 8 ∉ (Sample.loaded.run edits).ids ∧
      ((Sample.loaded.run edits).run [.addColumn 7 12]).Unknown 8 := by
  intro edits
  have hreset : Edit.reset ∉ edits := by simp [edits]
  have hlater : Edit.reset ∉ [(.addColumn 7 12 : Edit Float)] := by simp
  have hanswer : (Sample.loaded.run edits).answer (.addColumn 7 12) = .ok (some 11) := by
    decide +kernel
  have hissued : 10 ∈ Sample.loaded.issued edits := by decide +kernel
  have hgone : 8 ∉ (Sample.loaded.run edits).ids := by decide +kernel
  obtain ⟨hhanded, hunused⟩ := (issued_ids_ascend (.loaded Sample.load_saved)).2 edits hreset
  obtain ⟨hunknown, hnever⟩ := hunused 8 hgone _ hlater
  exact ⟨.loaded Sample.load_saved, hreset, hanswer, (hhanded _ _ hanswer).1, hissued,
    by decide +kernel, hgone, hunknown (hnever ⟨10, hissued, by decide⟩)⟩

/-- **Ids of a loaded graph may come back.**  If all tables are removed before the first id is handed
out, then the new ones are counted from one, and the third one is found where a table was removed. -/
theorem loaded_ids_reused :
    let edits : List (Edit Float) := [.removeTable 7, .removeTable 3]
    let later : List (Edit Float) := [.addTable Sample.orders, .addTable Sample.customers,
      .addTable { Sample.orders with catalogId := 5 }]
    load Sample.saved = .ok Sample.loaded ∧ Sample.loaded.ids = [7, 3, 8, 9, 1] ∧
      (Sample.loaded.run edits).issued later = [1, 2, 3] ∧
      (Sample.loaded.run edits).answer (.moveTable 3 ⟨0, 0⟩) = .error (.unknownTable 3) ∧
      ((Sample.loaded.run edits).run later).answer (.moveTable 3 ⟨0, 0⟩) = .ok none ∧
      ¬Sample.loaded.NeverReuses := by
  intro edits later
  have hedits : Edit.reset ∉ edits := by simp [edits]
  have hanswer : (Sample.loaded.run edits).answer (.addTable Sample.orders) = .ok (some 1) := by
    decide +kernel
  refine ⟨Sample.load_saved, by decide +kernel, by decide +kernel, by decide +kernel,
    by decide +kernel, fun h => ?_⟩
  -- the first id is one, and the graph began with the id 9
  have habove : 9 < 1 := (h edits hedits).1 _ 1 hanswer 9 (by decide +kernel)
  omega

end Graph

end QueryBuilder
