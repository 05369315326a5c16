/-
**New tables get the least alias that is not taken.**

A new table is called by the initials of its name, which are never empty: a name has a letter or a
number in one of its words, or else a `t` stands in for it.  If the initials are taken, the table gets
the least number with which they are not.  Nothing is asked of the aliases that are there; two tables
may well have the same one.

Main definitions:

* `QueryBuilder.Alias.letters` — the first letters of the words of a name.

Main results:

* `QueryBuilder.Alias.initials_eq` — what the initials of a name are;
* `QueryBuilder.Graph.addTable_leastAlias` — **a new table gets the least alias that is not taken**.
-/

import QueryBuilder.Proofs.Graph.Accepted
import QueryBuilder.Proofs.Graph.FreshAlias
import QueryBuilder.Proofs.Text.Lowercase

set_option autoImplicit false

namespace QueryBuilder

namespace Alias

/-! ### Initials -/

/-- What is in a word of a name is in the name and separates nothing. -/
theorem exists_mem_words_iff {s : List Char} {c : Char} :
    (∃ w ∈ words s, c ∈ w) ↔ c ∈ s ∧ isSeparator c = false := by
  induction s with
  | nil => simp [words]
  | cons x s ih =>
      unfold words at ih ⊢
      rw [List.splitOnP_cons_eq_if_modifyHead]
      by_cases hx : isSeparator x = true
      · rw [if_pos hx, List.exists_mem_cons_iff, ih]
        have hne : isSeparator c = false → c ≠ x := by
          rintro hc rfl
          exact absurd (hx.symm.trans hc) (by decide)
        grind
      · rw [if_neg hx]
        cases hwords : s.splitOnP isSeparator with
        | nil => exact absurd hwords (List.splitOnP_ne_nil _ _)
        | cons w rest =>
            rw [hwords, List.exists_mem_cons_iff] at ih
            rw [List.modifyHead_cons, List.exists_mem_cons_iff, List.mem_cons, or_assoc, ih,
              List.mem_cons]
            grind

/-- A letter or a number separates nothing. -/
theorem isSeparator_of_isAlphanumeric {c : Char} (h : Text.isAlphanumeric c = true) :
    isSeparator c = false := by
  have hrange : Text.inRanges Text.alphanumericRanges c = true := by
    rcases Bool.or_eq_true_iff.1 h with hascii | hrange
    · have hkinds : ((decide (65 ≤ c.toNat ∧ c.toNat ≤ 90) || (decide (97 ≤ c.toNat) &&
          decide (c.toNat ≤ 122))) || (decide (48 ≤ c.toNat) && decide (c.toNat ≤ 57))) = true :=
        hascii
      simp only [Bool.or_eq_true, Bool.and_eq_true, decide_eq_true_eq] at hkinds
      rw [Text.inRanges_iff]
      rcases hkinds with (hupper | hlower) | hdigit
      · exact ⟨(0x41, 0x5A), by decide, hupper⟩
      · exact ⟨(0x61, 0x7A), by decide, hlower⟩
      · exact ⟨(0x30, 0x39), by decide, hdigit⟩
    · exact hrange
  have hapart : ∀ range ∈ Text.alphanumericRanges,
      ∀ range' ∈ (0x5F, 0x5F) :: (0x2D, 0x2D) :: (0x2E, 0x2E) :: Text.blankRanges,
        range.2 < range'.1 ∨ range'.2 < range.1 := by
    decide +kernel
  have hno := Text.inRanges_eq_false_of_apart hapart hrange
  refine Bool.eq_false_iff.2 fun hseparator => ?_
  simp only [isSeparator, Bool.or_eq_true, decide_eq_true_eq] at hseparator
  rcases hseparator with ((rfl | rfl) | rfl) | hblank
  · exact absurd hno (by decide)
  · exact absurd hno (by decide)
  · exact absurd hno (by decide)
  · obtain ⟨range, hmem, hbounds⟩ := Text.inRanges_iff.1 hblank
    have hyes := Text.inRanges_iff.2 ⟨range, List.mem_append_right
      [(0x5F, 0x5F), (0x2D, 0x2D), (0x2E, 0x2E)] hmem, hbounds⟩
    exact absurd (hyes.symm.trans hno) (by decide)

/-- The first letter or number of each word that has one. -/
def letters (name : List Char) : List Char :=
  (words name).filterMap fun w => w.find? Text.isAlphanumeric

/-- There is none only in a name without letters and numbers. -/
theorem letters_eq_nil_iff {name : List Char} :
    letters name = [] ↔ name.any Text.isAlphanumeric = false := by
  have hwords : letters name = [] ↔ ∀ w ∈ words name, ∀ c ∈ w, ¬ Text.isAlphanumeric c = true := by
    simp only [letters, List.filterMap_eq_nil_iff, List.find?_eq_none]
  rw [hwords, List.any_eq_false]
  constructor
  · intro h c hc halphanumeric
    obtain ⟨w, hw, hcw⟩ :=
      exists_mem_words_iff.2 ⟨hc, isSeparator_of_isAlphanumeric halphanumeric⟩
    exact h w hw c hcw halphanumeric
  · intro h w hw c hcw
    exact h c (exists_mem_words_iff.1 ⟨w, hw, hcw⟩).1

/-- **Initials are the first letters of words, or a `t`** for a name without letters and numbers. -/
theorem initials_eq (name : String) :
    initials name =
      if name.toList.any Text.isAlphanumeric then
        String.ofList ((letters name.toList).flatMap Text.lowerChar)
      else "t" := by
  have hempty : ((letters name.toList).flatMap Text.lowerChar).isEmpty = true ↔
      name.toList.any Text.isAlphanumeric = false := by
    rw [← letters_eq_nil_iff, List.isEmpty_iff, List.flatMap_eq_nil_iff]
    constructor
    · intro h
      refine List.eq_nil_iff_forall_not_mem.2 fun c hc => ?_
      exact Text.lowerChar_ne_nil c (h c hc)
    · intro h c hc
      rw [h] at hc
      cases hc
  have hinitials : initials name =
      if ((letters name.toList).flatMap Text.lowerChar).isEmpty then "t"
      else String.ofList ((letters name.toList).flatMap Text.lowerChar) := rfl
  rw [hinitials]
  cases hany : name.toList.any Text.isAlphanumeric with
  | true =>
      rw [if_neg (by rw [hempty, hany]; decide)]
      rfl
  | false =>
      rw [if_pos (hempty.2 hany)]
      rfl

/-- Initials are not empty. -/
theorem initials_ne_empty (name : String) : initials name ≠ "" := by
  rw [initials_eq]
  cases hany : name.toList.any Text.isAlphanumeric with
  | true =>
      have hletters : letters name.toList ≠ [] := by
        intro hnil
        rw [letters_eq_nil_iff, hany] at hnil
        cases hnil
      obtain ⟨c, rest, hletters⟩ := List.exists_cons_of_ne_nil hletters
      obtain ⟨form, forms, hform⟩ := List.exists_cons_of_ne_nil (Text.lowerChar_ne_nil c)
      rw [if_pos rfl, hletters, List.flatMap_cons, hform]
      intro hempty
      have hlist := congrArg String.toList hempty
      rw [String.toList_ofList] at hlist
      cases hlist
  | false =>
      rw [if_neg Bool.false_ne_true]
      decide

/-- A new alias is not empty. -/
theorem fresh_ne_empty (taken : List String) (name : String) : fresh taken name ≠ "" := by
  by_cases h : initials name ∈ taken
  · obtain ⟨n, -, -, hfresh⟩ := fresh_of_taken h
    rw [hfresh, numbered]
    intro hempty
    exact initials_ne_empty name (String.append_eq_empty_iff.1 hempty).1
  · rw [fresh_of_free h]
    exact initials_ne_empty name

end Alias

/-! ### New tables -/

/-- **A new table gets the least alias that is not taken.**  The graph may be any graph; its aliases
need not be distinct, and no edits need to lead to it.  If the table is not refused, then its alias is
not empty and no table has it so far.  It is the initials of the name if these are free.  If not, it
is the initials with the least number from two on for which this is free; the search for the number,
which has no bound, stops at this number and at no other, and the number is larger than that of the
tables by one at most. -/
theorem Graph.addTable_leastAlias {α : Type} [Coordinate α] {g : Graph α} {t : NewTable}
    (hcatalog : g.checkCatalogId t.catalogId = .ok ())
    (hdatabase : g.checkDatabase t.database = .ok ()) :
    let taken := g.tables.map (·.aliasName)
    let base := Alias.initials t.name
    (base =
      if t.name.toList.any Text.isAlphanumeric then
        String.ofList ((Alias.letters t.name.toList).flatMap Text.lowerChar)
      else "t") ∧
    ∃ placed : PlacedTable α, (g.addTable t).1 = .ok placed.id ∧
      (g.addTable t).2.tables = g.tables ++ [placed] ∧ placed.toNewTable = t ∧
      placed.aliasName ≠ "" ∧ placed.aliasName ∉ taken ∧
      (base ∉ taken → placed.aliasName = base) ∧
      (base ∈ taken → ∃ n, placed.aliasName = base ++ toString n ∧ 2 ≤ n ∧
        n ≤ g.tables.length + 1 ∧ (∀ m, 2 ≤ m → m < n → base ++ toString m ∈ taken) ∧
        ∀ m, Alias.Search taken base 2 m ↔ m = n) := by
  intro taken base
  have hlength : taken.length = g.tables.length := List.length_map _
  have hadded : (g.addTable t).1 = .ok g.nextId ∧
      (g.addTable t).2.tables = g.tables ++ [g.tableToAdd t] := by
    rw [addTable_eq, hcatalog, hdatabase]
    exact ⟨rfl, rfl⟩
  refine ⟨Alias.initials_eq t.name, g.tableToAdd t, hadded.1, hadded.2, rfl,
    Alias.fresh_ne_empty _ _, Alias.fresh_not_mem _ _, Alias.fresh_of_free, ?_⟩
  intro hbase
  obtain ⟨n, hle, hsearch, hfresh⟩ := Alias.fresh_of_taken hbase
  obtain ⟨htwo, -, hused⟩ := Alias.search_iff.1 hsearch
  refine ⟨n, hfresh, htwo, by omega, hused, fun m => ⟨fun hm => hm.unique hsearch, ?_⟩⟩
  rintro rfl
  exact hsearch

/-- The initials `o1` are taken, and so is `o1` with the number two, which another table has as `o`
with the number twelve. -/
theorem Graph.addTable_leastAlias_sample :
    let placed (catalogId : Int) (aliasName : String) : PlacedTable Float :=
      ⟨⟨catalogId, "orders", none, 4, []⟩, catalogId.toNat, aliasName, ⟨50, 50⟩⟩
    let g : Graph Float := .ofDiagram ⟨some 4, [placed 1 "o12", placed 2 "o1"], [], [], []⟩ .standard
    let t : NewTable := ⟨3, "Orders 1st", none, 4, []⟩
    g.checkCatalogId t.catalogId = .ok () ∧ g.checkDatabase t.database = .ok () ∧
      Alias.initials t.name = "o1" ∧
      ∃ new, (g.addTable t).2.tables = g.tables ++ [new] ∧
        new.aliasName ∉ g.tables.map (·.aliasName) ∧ new.aliasName = "o13" := by
  intro placed g t
  have hcatalog : g.checkCatalogId t.catalogId = .ok () := rfl
  have hdatabase : g.checkDatabase t.database = .ok () := rfl
  obtain ⟨-, new, -, htables, -, -, hfree, -, htaken⟩ := addTable_leastAlias hcatalog hdatabase
  have hbase : Alias.initials t.name = "o1" := by decide +kernel
  refine ⟨hcatalog, hdatabase, hbase, new, htables, hfree, ?_⟩
  obtain ⟨n, hnew, htwo, hle, -⟩ := htaken (by rw [hbase]; decide)
  have hn : n = 2 ∨ n = 3 := by
    have hlength : g.tables.length = 2 := rfl
    omega
  rw [hbase] at hnew
  rcases hn with rfl | rfl
  · exact absurd (hnew ▸ hfree) (by decide)
  · exact hnew

end QueryBuilder
