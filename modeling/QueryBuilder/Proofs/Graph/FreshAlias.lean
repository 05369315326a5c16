/-
**Aliases of new tables are not taken.**

The initials of a name may be taken, and so may some of their numberings, among them numberings of
other initials: `o1` with the number two and `o` with the number twelve are the same alias.  The
search still succeeds, because it has as many numbers to try as there are aliases, and the initials
themselves use up one of those.

What is searched for is the least number that is left over.  So the search is stated once more
without a bound, step by step; it stops at this number, and the bound is not in its way.

Main definitions:

* `QueryBuilder.Alias.Search` — the search without a bound, from a number on, stops at a number.

Main results:

* `QueryBuilder.Alias.numbered_injective`, `QueryBuilder.Alias.numbered_ne` — numberings differ
  from each other and from the initials;
* `QueryBuilder.Alias.exists_numbered_not_mem` — one of the numberings that are tried is not taken;
* `QueryBuilder.Alias.search_iff` — where the search stops;
* `QueryBuilder.Alias.fresh_of_taken` — it stops, and the bound is not in its way;
* `QueryBuilder.Alias.fresh_not_mem` — **a new alias is not taken**.
-/

import Mathlib.Data.List.Nodup
import Mathlib.Data.List.Perm.Subperm
import QueryBuilder.Graph.Alias

set_option autoImplicit false

namespace QueryBuilder.Alias

/-- The decimal of a number is that of no other. -/
theorem toString_nat_injective : Function.Injective (toString : Nat → String) := by
  intro m n h
  have hm : Nat.ofDigitChars 10 (toString m).toList 0 = m := by simp
  have hn : Nat.ofDigitChars 10 (toString n).toList 0 = n := by simp
  rw [← hm, h, hn]

/-- Different numbers give different aliases. -/
theorem numbered_injective (base : String) : Function.Injective (numbered base) := by
  intro m n h
  exact toString_nat_injective ((String.append_right_inj base).1 h)

/-- A number makes an alias longer. -/
theorem numbered_ne (base : String) (n : Nat) : numbered base n ≠ base := by
  intro h
  have hlength : base.length + (toString n).length = base.length := by
    rw [← String.length_append]
    exact congrArg String.length h
  have hpos : 0 < (toString n).length := Nat.length_repr_pos
  omega

/-- **As many numberings as there are aliases are not all taken**, if the alias without a number
is: together with it they are too many. -/
theorem exists_numbered_not_mem {taken : List String} {base : String} (h : base ∈ taken) :
    ∃ n ∈ List.range' 2 taken.length, numbered base n ∉ taken := by
  by_contra hall
  push Not at hall
  have hnodup : (base :: (List.range' 2 taken.length).map (numbered base)).Nodup := by
    refine List.nodup_cons.2 ⟨?_, List.Nodup.map (numbered_injective base) List.nodup_range'⟩
    intro hmem
    obtain ⟨n, _, hn⟩ := List.mem_map.1 hmem
    exact numbered_ne base n hn
  have hsubset : base :: (List.range' 2 taken.length).map (numbered base) ⊆ taken := by
    intro a ha
    rcases List.mem_cons.1 ha with rfl | ha
    · exact h
    · obtain ⟨n, hn, rfl⟩ := List.mem_map.1 ha
      exact hall n hn
  have hlength := (List.subperm_of_subset hnodup hsubset).length_le
  simp only [List.length_cons, List.length_map, List.length_range'] at hlength
  omega

/-! ### The search without a bound -/

variable {taken : List String} {base : String} {start n : Nat}

/-- The search for a number from `start` on stops at `n`: it stops at the first number if this one
is left over, and goes on with the next one otherwise. -/
inductive Search (taken : List String) (base : String) : Nat → Nat → Prop where
  | stop {start : Nat} (free : numbered base start ∉ taken) : Search taken base start start
  | next {start n : Nat} (used : numbered base start ∈ taken)
      (rest : Search taken base (start + 1) n) : Search taken base start n

/-- **The search stops at the least number that is left over**, and only there. -/
theorem search_iff :
    Search taken base start n ↔
      start ≤ n ∧ numbered base n ∉ taken ∧ ∀ m, start ≤ m → m < n → numbered base m ∈ taken := by
  constructor
  · intro h
    induction h with
    | stop free => exact ⟨Nat.le_refl _, free, fun m hle hlt => absurd hlt (Nat.not_lt.2 hle)⟩
    | next used _ ih =>
        obtain ⟨hle, hfree, hused⟩ := ih
        refine ⟨Nat.le_of_succ_le hle, hfree, fun m hm hlt => ?_⟩
        rcases Nat.eq_or_lt_of_le hm with rfl | hm
        · exact used
        · exact hused m hm hlt
  · rintro ⟨hle, hfree, hused⟩
    obtain ⟨steps, rfl⟩ := Nat.exists_eq_add_of_le hle
    -- by induction on how far the search has to go
    induction steps generalizing start with
    | zero => exact .stop hfree
    | succ steps ih =>
        refine .next (hused start (Nat.le_refl _) (by omega)) ?_
        have hshift : start + (steps + 1) = start + 1 + steps := by omega
        rw [hshift] at hfree hused ⊢
        exact ih (by omega) hfree fun m hm hlt => hused m (by omega) hlt

/-- It stops at one number at most. -/
theorem Search.unique {m : Nat} (h : Search taken base start m) (h' : Search taken base start n) :
    m = n := by
  obtain ⟨hm, hfree, hused⟩ := search_iff.1 h
  obtain ⟨hn, hfree', hused'⟩ := search_iff.1 h'
  rcases Nat.lt_trichotomy m n with hlt | heq | hlt
  · exact absurd (hused' m hm hlt) hfree
  · exact heq
  · exact absurd (hused n hn hlt) hfree'

/-- A search with a bound that finds an alias finds the one at which the search without a bound
stops. -/
theorem search_of_find? {length : Nat} {a : String}
    (h : ((List.range' start length).map (numbered base)).find? (fun a => !taken.contains a) =
      some a) : ∃ n < start + length, Search taken base start n ∧ a = numbered base n := by
  induction length generalizing start with
  | zero => cases h
  | succ length ih =>
      rw [List.range'_succ, List.map_cons] at h
      by_cases hused : numbered base start ∈ taken
      · rw [List.find?_cons_of_neg (by simpa using hused)] at h
        obtain ⟨n, hn, hrest, rfl⟩ := ih h
        exact ⟨n, by omega, .next hused hrest, rfl⟩
      · rw [List.find?_cons_of_pos (by simpa using hused)] at h
        exact ⟨start, by omega, .stop hused, (Option.some.inj h).symm⟩

/-- **The search stops, and the bound is not in its way**: if the initials are taken, then a new alias
has the number at which the search from two on stops.  This number exceeds that of the aliases by one
at most. -/
theorem fresh_of_taken {name : String} (h : initials name ∈ taken) :
    ∃ n ≤ taken.length + 1, Search taken (initials name) 2 n ∧
      fresh taken name = numbered (initials name) n := by
  have hfresh : fresh taken name = (((List.range' 2 taken.length).map
      (numbered (initials name))).find? fun a => !taken.contains a).getD (initials name) := by
    rw [fresh, if_pos (List.contains_iff_mem.2 h)]
  obtain ⟨a, ha⟩ : ∃ a, ((List.range' 2 taken.length).map (numbered (initials name))).find?
      (fun a => !taken.contains a) = some a := by
    obtain ⟨n, hn, hfree⟩ := exists_numbered_not_mem h
    rw [← Option.isSome_iff_exists, List.find?_isSome]
    exact ⟨_, List.mem_map_of_mem hn, by simpa using hfree⟩
  obtain ⟨n, hn, hsearch, rfl⟩ := search_of_find? ha
  refine ⟨n, by omega, hsearch, ?_⟩
  rw [hfresh, ha, Option.getD_some]

theorem fresh_of_free {name : String} (h : initials name ∉ taken) :
    fresh taken name = initials name := by
  rw [fresh, if_neg (mt List.contains_iff_mem.1 h)]

/-- **A new alias is not taken.** -/
theorem fresh_not_mem (taken : List String) (name : String) : fresh taken name ∉ taken := by
  by_cases h : initials name ∈ taken
  · obtain ⟨n, -, hsearch, hfresh⟩ := fresh_of_taken h
    rw [hfresh]
    exact (search_iff.1 hsearch).2.1
  · rw [fresh_of_free h]
    exact h

end QueryBuilder.Alias
