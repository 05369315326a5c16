/-
**Browsing a catalog fetches every list once.**

A provider may fail, and its answers may change from request to request.  Whatever it answers, a
browser asks for a list until it gets one, and never again: the calls for one list are some
failures, which are the failures of the provider, and then successes, all with the first list that
came.  The requests that the provider gets are the failures and the first success.

To say what the provider is asked, it is watched: a watched provider keeps a record of its requests
next to its own state, and answers as before.

Main definitions:

* `QueryBuilder.upToSuccess` — the attempts that are made until one succeeds;
* `QueryBuilder.Exchange` — a question about the catalog with its answer;
* `QueryBuilder.Provider.watched` — a provider with a record of its requests;
* `QueryBuilder.BrowserCall`, `QueryBuilder.Visit` — the calls of a browser, and how far they got;
* `QueryBuilder.Kept`, `QueryBuilder.Visit.Sound` — what a browser knows, and why it knows it;
* `QueryBuilder.Visit.Coherent` — what holds of a browser at any time.

Main results:

* `QueryBuilder.Browser.expand_of_error` — failures are those of the provider;
* `QueryBuilder.Visit.Sound.run` — what is known was answered, and what is not known was not;
* `QueryBuilder.Visit.browsing_coherent` — **a browser is coherent** along all calls.
-/

import QueryBuilder.Catalog.Browser

set_option autoImplicit false

namespace QueryBuilder

/-! ### Attempts -/

section Attempts

variable {ε β : Type}

/-- The attempts that are made until one of them succeeds. -/
def upToSuccess : List (Except ε β) → List (Except ε β)
  | [] => []
  | .error e :: rest => .error e :: upToSuccess rest
  | .ok x :: _ => [.ok x]

/-- Failures lead to another attempt. -/
theorem upToSuccess_append (failures : List ε) (rest : List (Except ε β)) :
    upToSuccess (failures.map .error ++ rest) = failures.map .error ++ upToSuccess rest := by
  induction failures with
  | nil => rfl
  | cons e failures ih =>
      rw [List.map_cons, List.cons_append, upToSuccess, ih]
      rfl

/-- What is known of a list after some calls for it, with the answers that the calls got and the
replies to the requests that were made: nothing after failures only, and else the first list that
came, which is the answer ever since. -/
inductive Kept : Option β → List (Except ε β) → List (Except ε β) → Prop
  | unknown (failures : List ε) : Kept none (failures.map .error) (failures.map .error)
  | known (failures : List ε) (x : β) (later : Nat) :
      Kept (some x) (failures.map .error ++ .ok x :: List.replicate later (.ok x))
        (failures.map .error ++ [.ok x])

namespace Kept

variable {known : Option β} {answers requests : List (Except ε β)}

/-- A call for a list that is known is answered by it, without a request. -/
theorem again {x : β} (h : Kept (some x) answers requests) :
    Kept (some x) (answers ++ [.ok x]) requests := by
  cases h with
  | known failures x later =>
      rw [List.append_assoc, List.cons_append, ← List.replicate_succ']
      exact .known failures x (later + 1)

/-- A call for a list that is not known is answered by the reply to a request. -/
theorem fetched (h : Kept none answers requests) (reply : Except ε β) :
    Kept reply.toOption (answers ++ [reply]) (requests ++ [reply]) := by
  cases h with
  | unknown failures =>
      cases reply with
      | error e =>
          have hmap : failures.map .error ++ [.error e] =
              (failures ++ [e]).map (Except.error (α := β)) := by
            rw [List.map_append]
            rfl
          rw [hmap]
          exact .unknown (failures ++ [e])
      | ok x => exact .known failures x 0

/-- Requests are made until one succeeds. -/
theorem requests_eq (h : Kept known answers requests) : requests = upToSuccess answers := by
  cases h with
  | unknown failures =>
      have hall := upToSuccess_append (β := β) failures []
      rw [List.append_nil] at hall
      rw [hall, upToSuccess, List.append_nil]
  | known failures x later => rw [upToSuccess_append, upToSuccess]

/-- What is known is what some call was answered. -/
theorem ok_mem_iff (h : Kept known answers requests) (x : β) :
    .ok x ∈ answers ↔ known = some x := by
  cases h with
  | unknown failures => simp
  | known failures y later =>
      constructor
      · intro hmem
        have hxy : x = y := by
          simp only [List.mem_append, List.mem_map, List.mem_cons, List.mem_replicate] at hmem
          grind
        rw [hxy]
      · intro hxy
        cases hxy
        simp

/-- All answers after a success repeat it. -/
theorem pairwise (h : Kept known answers requests) :
    answers.Pairwise fun earlier later => ∀ x, earlier = .ok x → later = .ok x := by
  cases h with
  | unknown failures =>
      rw [List.pairwise_map]
      exact List.pairwise_of_forall fun _ _ _ => nofun
  | known failures x later =>
      rw [List.pairwise_append, List.pairwise_map, List.pairwise_cons]
      refine ⟨List.pairwise_of_forall fun _ _ _ => nofun, ⟨?_, ?_⟩, by simp⟩
      · intro a ha y hy
        rw [List.eq_of_mem_replicate ha, hy]
      · exact List.pairwise_replicate.2 (.inr fun _ => id)

end Kept

end Attempts

/-! ### Watching a provider -/

/-- A question about the catalog with its answer. -/
inductive Exchange
  | databases (answer : Except CatalogError (List CatalogDatabase))
  | tables (database : Int) (answer : Except CatalogError (List CatalogTable))

namespace Exchange

/-- The answer to the question which databases there are. -/
def databases? : Exchange → Option (Except CatalogError (List CatalogDatabase))
  | .databases answer => some answer
  | .tables .. => none

/-- The answer to the question which tables a database has. -/
def tables? (database : Int) : Exchange → Option (Except CatalogError (List CatalogTable))
  | .databases _ => none
  | .tables other answer => if other = database then some answer else none

@[simp] theorem databases?_databases (answer : Except CatalogError (List CatalogDatabase)) :
    (databases answer).databases? = some answer := rfl

@[simp] theorem databases?_tables (database : Int)
    (answer : Except CatalogError (List CatalogTable)) :
    (tables database answer).databases? = none := rfl

@[simp] theorem tables?_databases (database : Int)
    (answer : Except CatalogError (List CatalogDatabase)) :
    (databases answer).tables? database = none := rfl

@[simp] theorem tables?_tables (database : Int)
    (answer : Except CatalogError (List CatalogTable)) :
    (tables database answer).tables? database = some answer := if_pos rfl

theorem tables?_tables_of_ne {database other : Int} (h : other ≠ database)
    (answer : Except CatalogError (List CatalogTable)) :
    (tables other answer).tables? database = none := if_neg h

/-- The answers of one more exchange. -/
theorem filterMap_snoc {β : Type} (answer? : Exchange → Option β) (exchanges : List Exchange)
    (e : Exchange) :
    (exchanges ++ [e]).filterMap answer? =
      exchanges.filterMap answer? ++ (answer? e).toList := by
  rw [List.filterMap_append]
  cases h : answer? e with
  | none => rw [List.filterMap_cons_none h]; rfl
  | some a => rw [List.filterMap_cons_some h]; rfl

theorem mem_filterMap_tables? {database : Int} {exchanges : List Exchange}
    {answer : Except CatalogError (List CatalogTable)} :
    answer ∈ exchanges.filterMap (tables? database) ↔ .tables database answer ∈ exchanges := by
  rw [List.mem_filterMap]
  constructor
  · rintro ⟨exchange, hmem, h⟩
    cases exchange with
    | databases => cases h
    | tables other reply =>
        obtain ⟨rfl, rfl⟩ : other = database ∧ reply = answer := by simpa [tables?] using h
        exact hmem
  · intro hmem
    exact ⟨_, hmem, if_pos rfl⟩

end Exchange

variable {σ : Type}

/-- The same provider with a record of the requests that it got. -/
def Provider.watched (provider : Provider σ) : Provider (σ × List Exchange) where
  databases s :=
    let (reply, source) := provider.databases s.1
    (reply, source, s.2 ++ [.databases reply])
  tables database s :=
    let (reply, source) := provider.tables database s.1
    (reply, source, s.2 ++ [.tables database reply])

/-! ### Calls of a browser -/

/-- A call of a browser. -/
inductive BrowserCall
  | databases
  | expand (database : Int)
  | isExpanded (database : Int)
  | table (id : Int)
  deriving DecidableEq, Repr

/-- Whether a call asks for a list.  The other calls look something up in the lists. -/
def BrowserCall.asks : BrowserCall → Bool
  | .databases | .expand _ => true
  | .isExpanded _ | .table _ => false

/-- The call that has an answer. -/
def Exchange.call : Exchange → BrowserCall
  | .databases _ => .databases
  | .tables database _ => .expand database

/-- How far the calls of a browser got. -/
structure Visit (σ : Type) where
  browser : Browser
  source : σ
  /-- The calls that ask for a list, with their answers. -/
  answered : List Exchange

namespace Visit

/-- Nothing was called so far. -/
def start (source : σ) : Visit σ :=
  ⟨.empty, source, []⟩

/-- One more call.  Looking something up changes nothing. -/
def step (provider : Provider σ) (v : Visit σ) : BrowserCall → Visit σ
  | .databases =>
    let (answer, browser, source) := v.browser.listDatabases provider v.source
    ⟨browser, source, v.answered ++ [.databases answer]⟩
  | .expand database =>
    let (answer, browser, source) := v.browser.expand provider database v.source
    ⟨browser, source, v.answered ++ [.tables database answer]⟩
  | .isExpanded _ => v
  | .table _ => v

/-- Some more calls. -/
def run (provider : Provider σ) (v : Visit σ) (calls : List BrowserCall) : Visit σ :=
  calls.foldl (step provider) v

theorem run_append (provider : Provider σ) (v : Visit σ) (calls more : List BrowserCall) :
    v.run provider (calls ++ more) = (v.run provider calls).run provider more :=
  List.foldl_append

/-- Without the record of the requests. -/
def unwatched (v : Visit (σ × List Exchange)) : Visit σ :=
  ⟨v.browser, v.source.1, v.answered⟩

end Visit

/-! ### Single calls -/

namespace Browser

variable (provider : Provider σ) (b : Browser) (s : σ) {d : Int}

/-- What becomes of the tables of a database when a reply comes in. -/
def noted (database : Int) (reply : Except CatalogError (List CatalogTable)) : Browser :=
  match reply with
  | .ok list => { b with expanded := b.expanded ++ [(database, list)] }
  | .error _ => b

variable {b}

theorem listDatabases_of_some {list : List CatalogDatabase} (h : b.databases = some list) :
    b.listDatabases provider s = (.ok list, b, s) := by
  rw [listDatabases, h]

theorem listDatabases_of_none (h : b.databases = none) :
    b.listDatabases provider s = ((provider.databases s).1,
      { b with databases := (provider.databases s).1.toOption }, (provider.databases s).2) := by
  obtain ⟨databases, expanded⟩ := b
  cases h
  rw [listDatabases]
  rcases provider.databases s with ⟨reply | list, source⟩ <;> rfl

theorem expand_of_some {list : List CatalogTable} (h : b.expanded.lookup d = some list) :
    b.expand provider d s = (.ok list, b, s) := by
  rw [expand, h]

theorem expand_of_none (h : b.expanded.lookup d = none) :
    b.expand provider d s = ((provider.tables d s).1, b.noted d (provider.tables d s).1,
      (provider.tables d s).2) := by
  rw [expand, h]
  rcases provider.tables d s with ⟨reply | list, source⟩ <;> rfl

/-- What is known after a reply came in for a database whose tables were not known. -/
theorem lookup_noted (h : b.expanded.lookup d = none)
    (reply : Except CatalogError (List CatalogTable)) (other : Int) :
    (b.noted d reply).expanded.lookup other =
      if other = d then reply.toOption else b.expanded.lookup other := by
  cases reply with
  | error e =>
      by_cases hd : other = d
      · rw [if_pos hd, hd]
        exact h
      · rw [if_neg hd]
        rfl
  | ok list =>
      rw [noted, List.lookup_append, List.lookup_cons]
      by_cases hd : other = d
      · rw [if_pos hd, hd, h, BEq.rfl]
        rfl
      · rw [if_neg hd, beq_false_of_ne hd]
        exact Option.or_none

/-- The tables of a database are still kept once after a reply came in. -/
theorem unique_noted (hunique : ∀ p ∈ b.expanded, b.expanded.lookup p.1 = some p.2)
    (h : b.expanded.lookup d = none) (reply : Except CatalogError (List CatalogTable)) :
    ∀ p ∈ (b.noted d reply).expanded, (b.noted d reply).expanded.lookup p.1 = some p.2 := by
  intro p hp
  rw [lookup_noted h]
  cases reply with
  | error e =>
      have hne : p.1 ≠ d := by
        intro hd
        rw [← hd, hunique p hp] at h
        cases h
      rw [if_neg hne]
      exact hunique p hp
  | ok list =>
      obtain hp | hp := List.mem_append.1 hp
      · have hne : p.1 ≠ d := by
          intro hd
          rw [← hd, hunique p hp] at h
          cases h
        rw [if_neg hne]
        exact hunique p hp
      · rw [List.mem_singleton.1 hp, if_pos rfl]
        rfl

/-- **A list of databases fails to come only because the provider has none**, and then the browser
stays as it is. -/
theorem listDatabases_of_error {e : CatalogError}
    (h : (b.listDatabases provider s).1 = .error e) :
    (provider.databases s).1 = .error e ∧ (b.listDatabases provider s).2.1 = b := by
  cases hknown : b.databases with
  | some list =>
      rw [listDatabases_of_some provider s hknown] at h
      cases h
  | none =>
      rw [listDatabases_of_none provider s hknown] at h ⊢
      refine ⟨h, ?_⟩
      dsimp only at h ⊢
      rw [h]
      obtain ⟨databases, expanded⟩ := b
      cases hknown
      rfl

/-- **A database fails to expand only because the provider has no tables of it**, and then the
browser stays as it is. -/
theorem expand_of_error {e : CatalogError} (h : (b.expand provider d s).1 = .error e) :
    (provider.tables d s).1 = .error e ∧ (b.expand provider d s).2.1 = b := by
  cases hknown : b.expanded.lookup d with
  | some list =>
      rw [expand_of_some provider s hknown] at h
      cases h
  | none =>
      rw [expand_of_none provider s hknown] at h ⊢
      refine ⟨h, ?_⟩
      dsimp only at h ⊢
      rw [h]
      rfl

/-- A table that is found has the id, and is in one of the lists. -/
theorem of_table? {id : Int} {t : CatalogTable} (h : b.table? id = some t) :
    t.id = id ∧ ∃ p ∈ b.expanded, t ∈ p.2 := by
  have hid : t.id = id := by simpa using List.find?_some h
  exact ⟨hid, List.mem_flatMap.1 (List.mem_of_find?_eq_some h)⟩

/-- No table is found exactly if none of the lists has one with the id. -/
theorem table?_eq_none_iff {id : Int} :
    b.table? id = none ↔ ∀ p ∈ b.expanded, ∀ t ∈ p.2, t.id ≠ id := by
  rw [table?, List.find?_eq_none]
  constructor
  · intro h p hp t ht
    simpa using h t (List.mem_flatMap.2 ⟨p, hp, ht⟩)
  · intro h t ht
    obtain ⟨p, hp, ht⟩ := List.mem_flatMap.1 ht
    simpa using h p hp t ht

end Browser

/-! ### What is known -/

namespace Visit

variable {v : Visit (σ × List Exchange)}

/-- All that a browser knows is what it was answered. -/
structure Sound (v : Visit (σ × List Exchange)) : Prop where
  databases : Kept v.browser.databases (v.answered.filterMap Exchange.databases?)
    (v.source.2.filterMap Exchange.databases?)
  tables : ∀ d, Kept (v.browser.expanded.lookup d) (v.answered.filterMap (Exchange.tables? d))
    (v.source.2.filterMap (Exchange.tables? d))
  /-- The tables of a database are kept once. -/
  unique : ∀ p ∈ v.browser.expanded, v.browser.expanded.lookup p.1 = some p.2

/-- Nothing is known at first. -/
theorem sound_start (source : σ) : (start (source, [])).Sound where
  databases := .unknown []
  tables _ := .unknown []
  unique _ h := nomatch h

/-- One more call for the databases. -/
theorem Sound.step_databases (h : v.Sound) (provider : Provider σ) :
    (v.step provider.watched .databases).Sound := by
  have hkept := h.databases
  cases hknown : v.browser.databases with
  | some list =>
      rw [hknown] at hkept
      simp only [step, Browser.listDatabases_of_some _ _ hknown]
      refine ⟨?_, fun d => ?_, h.unique⟩
      · rw [Exchange.filterMap_snoc, hknown]
        exact hkept.again
      · rw [Exchange.filterMap_snoc]
        simpa using h.tables d
  | none =>
      rw [hknown] at hkept
      simp only [step, Browser.listDatabases_of_none _ _ hknown, Provider.watched]
      refine ⟨?_, fun d => ?_, h.unique⟩
      · rw [Exchange.filterMap_snoc, Exchange.filterMap_snoc]
        exact hkept.fetched _
      · rw [Exchange.filterMap_snoc, Exchange.filterMap_snoc]
        simpa using h.tables d

/-- One more call for the tables of a database. -/
theorem Sound.step_expand (h : v.Sound) (provider : Provider σ) (d : Int) :
    (v.step provider.watched (.expand d)).Sound := by
  have hkept := h.tables d
  cases hknown : v.browser.expanded.lookup d with
  | some list =>
      rw [hknown] at hkept
      simp only [step, Browser.expand_of_some _ _ hknown]
      refine ⟨?_, fun other => ?_, h.unique⟩
      · rw [Exchange.filterMap_snoc]
        simpa using h.databases
      · rw [Exchange.filterMap_snoc]
        by_cases hd : other = d
        · rw [hd, hknown, Exchange.tables?_tables]
          exact hkept.again
        · rw [Exchange.tables?_tables_of_ne (Ne.symm hd)]
          simpa using h.tables other
  | none =>
      rw [hknown] at hkept
      simp only [step, Browser.expand_of_none _ _ hknown, Provider.watched]
      -- the reply is the answer, be it a list or a failure
      generalize (provider.tables d v.source.1).1 = reply
      refine ⟨?_, fun other => ?_, ?_⟩
      · rw [Exchange.filterMap_snoc, Exchange.filterMap_snoc]
        cases reply <;> simpa [Browser.noted] using h.databases
      · rw [Browser.lookup_noted hknown, Exchange.filterMap_snoc, Exchange.filterMap_snoc]
        by_cases hd : other = d
        · rw [hd, if_pos rfl, Exchange.tables?_tables]
          exact hkept.fetched _
        · rw [if_neg hd, Exchange.tables?_tables_of_ne (Ne.symm hd)]
          simpa using h.tables other
      · exact Browser.unique_noted h.unique hknown reply

/-- What is known stays so by one more call. -/
theorem Sound.step (h : v.Sound) (provider : Provider σ) (call : BrowserCall) :
    (v.step provider.watched call).Sound := by
  cases call with
  | databases => exact h.step_databases provider
  | expand d => exact h.step_expand provider d
  | isExpanded d => exact h
  | table id => exact h

/-- **What is known was answered, and what is not known was not**, after all calls. -/
theorem Sound.run (h : v.Sound) (provider : Provider σ) (calls : List BrowserCall) :
    (v.run provider.watched calls).Sound := by
  induction calls generalizing v with
  | nil => exact h
  | cons call calls ih => exact ih (h.step provider call)

/-- A list is kept exactly if a call was answered by it. -/
theorem Sound.mem_expanded_iff (h : v.Sound) {d : Int} {list : List CatalogTable} :
    (d, list) ∈ v.browser.expanded ↔ .tables d (.ok list) ∈ v.answered := by
  rw [← Exchange.mem_filterMap_tables?, (h.tables d).ok_mem_iff]
  constructor
  · exact h.unique (d, list)
  · intro hlookup
    obtain ⟨before, after, hexpanded, -⟩ := List.lookup_eq_some_iff.1 hlookup
    rw [hexpanded]
    exact List.mem_append_right _ (List.mem_cons_self ..)

/-! ### All calls -/

/-- Watching the provider changes nothing. -/
theorem unwatched_step (provider : Provider σ) (v : Visit (σ × List Exchange))
    (call : BrowserCall) :
    (v.step provider.watched call).unwatched = v.unwatched.step provider call := by
  cases call with
  | databases =>
      cases h : v.browser.databases with
      | some list =>
          simp only [step, unwatched, Browser.listDatabases_of_some _ _ h]
      | none =>
          simp only [step, unwatched, Browser.listDatabases_of_none _ _ h, Provider.watched]
  | expand d =>
      cases h : v.browser.expanded.lookup d with
      | some list => simp only [step, unwatched, Browser.expand_of_some _ _ h]
      | none => simp only [step, unwatched, Browser.expand_of_none _ _ h, Provider.watched]
  | isExpanded d => rfl
  | table id => rfl

theorem unwatched_run (provider : Provider σ) (v : Visit (σ × List Exchange))
    (calls : List BrowserCall) :
    (v.run provider.watched calls).unwatched = v.unwatched.run provider calls := by
  induction calls generalizing v with
  | nil => rfl
  | cons call calls ih =>
      rw [run, List.foldl_cons, ← run, ih, unwatched_step]
      rfl

/-- Each call that asks for a list is answered once. -/
theorem call_answered_run {τ : Type} (provider : Provider τ) (v : Visit τ)
    (calls : List BrowserCall) :
    (v.run provider calls).answered.map Exchange.call =
      v.answered.map Exchange.call ++ calls.filter BrowserCall.asks := by
  induction calls generalizing v with
  | nil => simp [run]
  | cons call calls ih =>
      rw [run, List.foldl_cons, ← run, ih]
      rw [List.filter_cons]
      cases call <;> simp [step, BrowserCall.asks, Exchange.call]

/-- Answers stay. -/
theorem answered_prefix_run {τ : Type} (provider : Provider τ) (v : Visit τ)
    (calls : List BrowserCall) : v.answered <+: (v.run provider calls).answered := by
  induction calls generalizing v with
  | nil => exact List.prefix_rfl
  | cons call calls ih =>
      have hstep : v.answered <+: (v.step provider call).answered := by
        cases call with
        | databases => exact List.prefix_append ..
        | expand d => exact List.prefix_append ..
        | isExpanded d => exact List.prefix_rfl
        | table id => exact List.prefix_rfl
      exact hstep.trans (ih (v.step provider call))

/-- What holds of a browser at any time, with the requests that its provider got.  The lists of
tables have no order, and so tables are looked up in any browser that has the same lists. -/
structure Coherent (provider : Provider σ) (v : Visit (σ × List Exchange)) : Prop where
  databases_asked : v.source.2.filterMap Exchange.databases? =
    upToSuccess (v.answered.filterMap Exchange.databases?)
  tables_asked : ∀ d, v.source.2.filterMap (Exchange.tables? d) =
    upToSuccess (v.answered.filterMap (Exchange.tables? d))
  databases_repeated : (v.answered.filterMap Exchange.databases?).Pairwise fun earlier later =>
    ∀ list, earlier = .ok list → later = .ok list
  tables_repeated : ∀ d, (v.answered.filterMap (Exchange.tables? d)).Pairwise fun earlier later =>
    ∀ list, earlier = .ok list → later = .ok list
  databases_failed : ∀ e, (v.browser.listDatabases provider v.source.1).1 = .error e →
    (provider.databases v.source.1).1 = .error e ∧
      (v.browser.listDatabases provider v.source.1).2.1 = v.browser
  tables_failed : ∀ d e, (v.browser.expand provider d v.source.1).1 = .error e →
    (provider.tables d v.source.1).1 = .error e ∧
      (v.browser.expand provider d v.source.1).2.1 = v.browser
  isExpanded_iff : ∀ d, v.browser.isExpanded d = true ↔
    ∃ list, .tables d (.ok list) ∈ v.answered
  of_table? : ∀ b : Browser, b.expanded.Perm v.browser.expanded → ∀ id t, b.table? id = some t →
    t.id = id ∧ ∃ d list, .tables d (.ok list) ∈ v.answered ∧ t ∈ list
  table?_eq_none_iff : ∀ b : Browser, b.expanded.Perm v.browser.expanded → ∀ id,
    b.table? id = none ↔ ∀ d list, .tables d (.ok list) ∈ v.answered → ∀ t ∈ list, t.id ≠ id

theorem Sound.coherent (h : v.Sound) (provider : Provider σ) : v.Coherent provider where
  databases_asked := h.databases.requests_eq
  tables_asked d := (h.tables d).requests_eq
  databases_repeated := h.databases.pairwise
  tables_repeated d := (h.tables d).pairwise
  databases_failed _ := Browser.listDatabases_of_error provider v.source.1
  tables_failed _ _ := Browser.expand_of_error provider v.source.1
  isExpanded_iff d := by
    simp only [Browser.isExpanded, Option.isSome_iff_exists, ← (h.tables d).ok_mem_iff,
      Exchange.mem_filterMap_tables?]
  of_table? b hperm id t ht := by
    obtain ⟨hid, ⟨d, list⟩, hmem, ht⟩ := Browser.of_table? ht
    exact ⟨hid, d, list, h.mem_expanded_iff.1 (hperm.mem_iff.1 hmem), ht⟩
  table?_eq_none_iff b hperm id := by
    rw [Browser.table?_eq_none_iff]
    simp only [Prod.forall, hperm.mem_iff, h.mem_expanded_iff]

/-- **A browser is coherent.**  Take any provider, whose answers may fail or change, and any calls.
Each call for a list is answered once.  The provider is asked once for each call of a list up to the
first success, with an empty list too, and never afterwards, and all later calls are answered by the
list of the first success.  A call that fails has the failure of the provider, and leaves the
browser as it is.  The expanded databases are those with a success, the tables that are found are
those in their lists, and a table that was found once is found ever after.  The record of the
requests makes no difference. -/
theorem browsing_coherent (provider : Provider σ) (source : σ) (calls more : List BrowserCall) :
    let v := (start (source, [])).run provider.watched calls
    (start source).run provider calls = v.unwatched ∧
    v.answered.map Exchange.call = calls.filter BrowserCall.asks ∧
    v.Coherent provider ∧
    ∀ (b later : Browser) (id : Int), b.expanded.Perm v.browser.expanded →
      later.expanded.Perm
        ((start (source, [])).run provider.watched (calls ++ more)).browser.expanded →
      (b.table? id).isSome → (later.table? id).isSome := by
  intro v
  have hcoherent : ∀ calls, ((start (source, [])).run provider.watched calls).Coherent provider :=
    fun calls => ((sound_start source).run provider calls).coherent provider
  have hunwatched : v.unwatched = (start source).run provider calls := unwatched_run ..
  refine ⟨hunwatched.symm, call_answered_run .., hcoherent calls, ?_⟩
  intro b later id hb hlater hsome
  have hgrown : v.answered <+: (v.run provider.watched more).answered := answered_prefix_run ..
  rw [← run_append] at hgrown
  refine Option.isSome_iff_ne_none.2 fun hnone => Option.isSome_iff_ne_none.1 hsome ?_
  rw [(hcoherent (calls ++ more)).table?_eq_none_iff later hlater] at hnone
  rw [(hcoherent calls).table?_eq_none_iff b hb]
  exact fun d list hmem => hnone d list (hgrown.subset hmem)

/-- A provider that has no databases, fails at the first request, and gives another table at each
request for tables. -/
def unsteady : Provider Nat where
  databases n := (.ok [], n + 1)
  tables d n :=
    if n = 0 then (.error ⟨"offline"⟩, n + 1)
    else (.ok [⟨n, "orders", "Orders", none, d, []⟩], n + 1)

/-- A failure is not kept, and the empty list of databases and the list of tables that came third
are.  The table that was found stays when another database is expanded. -/
theorem browsing_coherent_sample :
    let calls : List BrowserCall :=
      [.expand 7, .databases, .expand 7, .isExpanded 7, .databases, .expand 7, .table 2]
    let v := (start (0, [])).run unsteady.watched calls
    let later := (start (0, [])).run unsteady.watched (calls ++ [.expand 8])
    v.source = (3, [.tables 7 (.error ⟨"offline"⟩), .databases (.ok []),
      .tables 7 (.ok [⟨2, "orders", "Orders", none, 7, []⟩])]) ∧
    v.Coherent unsteady ∧ (v.browser.table? 2).isSome ∧ (later.browser.table? 2).isSome := by
  intro calls v later
  obtain ⟨-, -, hcoherent, hstays⟩ := browsing_coherent unsteady 0 calls [.expand 8]
  have hsome : (v.browser.table? 2).isSome := rfl
  exact ⟨rfl, hcoherent, hsome, hstays v.browser later.browser 2 (.refl _) (.refl _) hsome⟩

end Visit

end QueryBuilder
