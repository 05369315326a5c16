/-
**The rules for the keys of a join.**

Four rules say which keys a join gets.  Each of them looks for a match between the two sides, and
for the first one in the order of the fields.  The rules are numbered, and the lowest-numbered rule
with a match gives the keys; without a match there are none.  This module states the rules without
the search, and proves that the suggestion follows them.

Two of the rules are about names: a side has a field named `id`, and the other side has a field
named after it.  What that means is a parameter of the rules.  The search reads both names in lower
case and compares; the rules are meant for the owner's name with an ending, in any case.  The two
differ for owners whose name ends in a capital sigma, because the sigma has another form before the
ending than without it, and for such an owner not even its name with the ending `id` is recognised.

The rules come in pairs that are the same with the sides exchanged, so the other direction of a join
gets the same keys exchanged, unless a pair has matches both ways.

Main definitions:

* `QueryBuilder.IsFirst` — the first of the items with a property;
* `QueryBuilder.Side.IsReadAfter`, `QueryBuilder.Side.IsSpelledAfter` — a field is named after an
  owner, as the search reads names and as the rules mean them;
* `QueryBuilder.Side.Refers`, `QueryBuilder.Side.Names` — matches of the two kinds of rules;
* `QueryBuilder.JoinRule`, `QueryBuilder.JoinRule.Matches`, `QueryBuilder.JoinRule.Gives` — the
  rules, when one of them has a match, and which keys it gives;
* `QueryBuilder.FollowsRules` — what the rules say of an answer.

Main results:

* `QueryBuilder.Side.isReadAfter_iff_isSpelledAfter`, `QueryBuilder.Side.isReadAfter_self` — when
  the search finds the names that are meant;
* `QueryBuilder.followsRules_suggest` — the suggestion follows the rules;
* `QueryBuilder.suggest_exchanged` — **the direction of a join does not matter**, unless it is
  ambiguous.
-/

import QueryBuilder.Graph.Suggestion
import QueryBuilder.Proofs.Graph.Edits
import QueryBuilder.Proofs.Text.Lowercase

set_option autoImplicit false

namespace QueryBuilder

/-! ### First items -/

section First

variable {β : Type} {p : β → Prop} {items : List β} {item : β}

/-- The first of the items that have a property. -/
def IsFirst (p : β → Prop) (items : List β) (item : β) : Prop :=
  ∃ before after, items = before ++ item :: after ∧ p item ∧ ∀ other ∈ before, ¬ p other

theorem IsFirst.mem (h : IsFirst p items item) : item ∈ items := by
  obtain ⟨before, after, rfl, -, -⟩ := h
  exact List.mem_append_right _ List.mem_cons_self

theorem IsFirst.holds (h : IsFirst p items item) : p item := by
  obtain ⟨before, after, -, hitem, -⟩ := h
  exact hitem

theorem find?_eq_some_iff_isFirst {p : β → Bool} :
    items.find? p = some item ↔ IsFirst (fun b => p b = true) items item := by
  rw [List.find?_eq_some_iff_append]
  constructor
  · rintro ⟨hitem, before, after, hitems, hbefore⟩
    exact ⟨before, after, hitems, hitem, by simpa using hbefore⟩
  · rintro ⟨before, after, hitems, hitem, hbefore⟩
    exact ⟨hitem, before, after, hitems, by simpa using hbefore⟩

end First

namespace Side

/-! ### Names -/

/-- The spellings of `id`, in any case. -/
def idNames : List String := ["id", "Id", "iD", "ID"]

/-- A field is named after an owner as the search reads names: in lower case it is the owner's name
in lower case, with an ending. -/
def IsReadAfter (owner field : String) : Prop :=
  ∃ ending ∈ ["_id", "id"], Text.lower field.toList = Text.lower owner.toList ++ ending.toList

instance (owner field : String) : Decidable (IsReadAfter owner field) :=
  inferInstanceAs (Decidable (∃ ending ∈ ["_id", "id"], _ = _))

/-- A field is named after an owner as the rules mean it: it is the owner's name with an ending, in
any case. -/
def IsSpelledAfter (owner field : String) : Prop :=
  ∃ ending ∈ ["_id", "id"], Text.lower field.toList = Text.lower (owner ++ ending).toList

theorem isIdName_iff {name : String} : isIdName name = true ↔ name ∈ idNames := by
  have hi : ∀ c, Text.lowerAscii c = 'i' ↔ c = 'i' ∨ c = 'I' :=
    Text.lowerAscii_eq_iff (by decide) rfl
  have hd : ∀ c, Text.lowerAscii c = 'd' ↔ c = 'd' ∨ c = 'D' :=
    Text.lowerAscii_eq_iff (by decide) rfl
  rw [isIdName, decide_eq_true_iff]
  constructor
  · intro h
    obtain ⟨first, rest, hname, hfirst, hrest⟩ := List.map_eq_cons_iff.1 h
    obtain ⟨second, rest, rfl, hsecond, hnil⟩ := List.map_eq_cons_iff.1 hrest
    rw [List.map_eq_nil_iff.1 hnil] at hname
    have hname : name = String.ofList [first, second] := by rw [← hname, String.ofList_toList]
    rcases (hi first).1 hfirst with rfl | rfl <;> rcases (hd second).1 hsecond with rfl | rfl <;>
      (rw [hname]; decide)
  · intro h
    simp only [idNames, List.mem_cons, List.not_mem_nil, or_false] at h
    rcases h with rfl | rfl | rfl | rfl <;> decide

theorem isNamedAfter_iff {owner field : String} :
    isNamedAfter owner field = true ↔ IsReadAfter owner field := by
  simp [isNamedAfter, IsReadAfter]

/-- The ending with an underscore is not looked at by anything before it. -/
theorem lower_append_snake (owner : String) :
    Text.lower (owner ++ "_id").toList = Text.lower owner.toList ++ "_id".toList := by
  rw [String.toList_append]
  exact Text.lower_append_of_uncased (by decide +kernel) (by decide +kernel) _ _

/-- The ending without one is looked at by a capital sigma right before it. -/
theorem lower_append_joined {owner : String} :
    Text.lower (owner ++ "id").toList = Text.lower owner.toList ++ "id".toList ↔
      Text.endsInSigma owner.toList = false := by
  rw [String.toList_append]
  exact Text.lower_append_of_cased (by decide +kernel) (by decide +kernel) (by decide) _

/-- **The search finds the names that are meant**, if the owner's name does not end in a capital
sigma. -/
theorem isReadAfter_iff_isSpelledAfter {owner field : String}
    (h : Text.endsInSigma owner.toList = false) :
    IsReadAfter owner field ↔ IsSpelledAfter owner field := by
  rw [IsReadAfter, IsSpelledAfter]
  simp only [List.mem_cons, List.not_mem_nil, or_false, exists_eq_or_imp, exists_eq_left,
    lower_append_snake, lower_append_joined.2 h]

/-- **The owner's own name with the ending is found if and only if the name does not end in a
capital sigma.**  The form of that name is shorter than what the other ending asks for, so it cannot
pass for that one. -/
theorem isReadAfter_self {owner : String} :
    IsReadAfter owner (owner ++ "id") ↔ Text.endsInSigma owner.toList = false := by
  rw [← lower_append_joined, IsReadAfter]
  constructor
  · rintro ⟨ending, hending, h⟩
    rcases List.mem_cons.1 hending with rfl | hending
    · have hlength := congrArg List.length h
      rw [String.toList_append, Text.length_lower_append, List.length_append] at hlength
      have hid : (Text.lower "id".toList).length = 2 := by decide +kernel
      have hsnake : "_id".toList.length = 3 := rfl
      omega
    · rw [List.mem_singleton.1 hending] at h
      exact h
  · intro h
    exact ⟨"id", by simp, h⟩

/-! ### Matches -/

/-- A match by reference: a field of one side refers to a field of the other. -/
def Refers (a b : Side) : Prop :=
  ∃ f ∈ a.fields, ∃ t ∈ b.fields, f.references = some t.id

/-- A match by name: the owner has an `id`, and the other side a field named after the owner. -/
def Names (naming : String → String → Prop) (owner other : Side) : Prop :=
  (∃ f ∈ owner.fields, f.name ∈ idNames) ∧ ∃ f ∈ other.fields, naming owner.name f.name

/-- The keys of the first match by reference: the field that refers, and the one it refers to. -/
def ReferenceKeys (a b : Side) (key referred : Int) : Prop :=
  ∃ f, IsFirst (fun f => ∃ t ∈ b.fields, f.references = some t.id) a.fields f ∧
    f.id = key ∧ f.references = some referred

/-- The keys of the first match by name: the owner's first `id`, and the first field that is named
after the owner. -/
def NameKeys (naming : String → String → Prop) (owner other : Side) (key named : Int) : Prop :=
  (∃ f, IsFirst (fun f => f.name ∈ idNames) owner.fields f ∧ f.id = key) ∧
    ∃ f, IsFirst (fun f => naming owner.name f.name) other.fields f ∧ f.id = named

instance (a b : Side) : Decidable (a.Refers b) :=
  inferInstanceAs (Decidable (∃ f ∈ a.fields, ∃ t ∈ b.fields, f.references = some t.id))

instance (owner other : Side) : Decidable (owner.Names IsReadAfter other) :=
  inferInstanceAs (Decidable ((∃ f ∈ owner.fields, f.name ∈ idNames) ∧ ∃ f ∈ other.fields, _))

variable {a b : Side}

/-- Keys by reference are fields of the two sides. -/
theorem ReferenceKeys.fields {key referred : Int} (h : a.ReferenceKeys b key referred) :
    (∃ f ∈ a.fields, f.id = key) ∧ ∃ f ∈ b.fields, f.id = referred := by
  obtain ⟨f, hfirst, hkey, hreferred⟩ := h
  obtain ⟨t, ht, hft⟩ := hfirst.holds
  exact ⟨⟨f, hfirst.mem, hkey⟩, t, ht, Option.some.inj (hft.symm.trans hreferred)⟩

/-- Keys by name are fields of the two sides. -/
theorem NameKeys.fields {naming : String → String → Prop} {key named : Int}
    (h : a.NameKeys naming b key named) :
    (∃ f ∈ a.fields, f.id = key) ∧ ∃ f ∈ b.fields, f.id = named := by
  obtain ⟨⟨f, hf, hkey⟩, t, ht, hnamed⟩ := h
  exact ⟨⟨f, hf.mem, hkey⟩, t, ht.mem, hnamed⟩

/-! ### The search -/

/-- What one field gives: its reference, if the other side has the field. -/
theorem reference?_eq_some {f : Field} {keys : Suggestion} :
    (f.references.bind fun id => (b.fields.find? fun t => t.id == id).map fun t => ⟨f.id, t.id⟩) =
        some keys ↔
      (∃ t ∈ b.fields, f.references = some t.id) ∧
        f.id = keys.sourceField ∧ f.references = some keys.targetField := by
  simp only [Option.bind_eq_some_iff, Option.map_eq_some_iff]
  constructor
  · rintro ⟨id, hid, t, ht, rfl⟩
    have hfound : t.id = id := by simpa using List.find?_some ht
    rw [hid, ← hfound]
    exact ⟨⟨t, List.mem_of_find?_eq_some ht, rfl⟩, rfl, rfl⟩
  · rintro ⟨⟨t, ht, hft⟩, hkey, hreferred⟩
    cases hfind : b.fields.find? (fun t => t.id == keys.targetField) with
    | none =>
        have htarget : t.id = keys.targetField := Option.some.inj (hft.symm.trans hreferred)
        exact absurd (List.find?_eq_none.1 hfind t ht) (by simpa using htarget)
    | some found =>
        have hfound : found.id = keys.targetField := by simpa using List.find?_some hfind
        exact ⟨_, hreferred, found, hfind, by rw [hkey, hfound]⟩

theorem reference?_eq_none {f : Field} :
    (f.references.bind fun id =>
        (b.fields.find? fun t => t.id == id).map fun t => (⟨f.id, t.id⟩ : Suggestion)) = none ↔
      ¬ ∃ t ∈ b.fields, f.references = some t.id := by
  rw [Option.eq_none_iff_forall_ne_some]
  constructor
  · rintro hnone ⟨t, ht, hft⟩
    exact hnone ⟨f.id, t.id⟩ (reference?_eq_some.2 ⟨⟨t, ht, hft⟩, rfl, hft⟩)
  · intro hrefers keys hkeys
    exact hrefers (reference?_eq_some.1 hkeys).1

theorem foreignKey?_eq_some_iff {keys : Suggestion} :
    a.foreignKey? b = some keys ↔ a.ReferenceKeys b keys.sourceField keys.targetField := by
  rw [foreignKey?, List.findSome?_eq_some_iff]
  constructor
  · rintro ⟨before, f, after, hfields, hf, hbefore⟩
    obtain ⟨hrefers, hkey, hreferred⟩ := reference?_eq_some.1 hf
    exact ⟨f, ⟨before, after, hfields, hrefers, fun g hg => reference?_eq_none.1 (hbefore g hg)⟩,
      hkey, hreferred⟩
  · rintro ⟨f, ⟨before, after, hfields, hrefers, hbefore⟩, hkey, hreferred⟩
    exact ⟨before, f, after, hfields, reference?_eq_some.2 ⟨hrefers, hkey, hreferred⟩,
      fun g hg => reference?_eq_none.2 (hbefore g hg)⟩

theorem foreignKey?_eq_none_iff : a.foreignKey? b = none ↔ ¬ a.Refers b := by
  rw [foreignKey?, List.findSome?_eq_none_iff]
  simp only [reference?_eq_none, Refers, not_exists, not_and]

theorem namedKey?_eq_some_iff {keys : Suggestion} :
    a.namedKey? b = some keys ↔
      a.NameKeys IsReadAfter b keys.sourceField keys.targetField := by
  simp only [namedKey?, NameKeys, ← isIdName_iff, ← isNamedAfter_iff, ← find?_eq_some_iff_isFirst,
    Option.bind_eq_some_iff, Option.map_eq_some_iff]
  constructor
  · rintro ⟨id, hid, f, hf, rfl⟩
    exact ⟨⟨id, hid, rfl⟩, f, hf, rfl⟩
  · rintro ⟨⟨id, hid, hkey⟩, f, hf, hnamed⟩
    exact ⟨id, hid, f, hf, by rw [hkey, hnamed]⟩

theorem namedKey?_eq_none_iff : a.namedKey? b = none ↔ ¬ a.Names IsReadAfter b := by
  simp only [namedKey?, Names, ← isNamedAfter_iff]
  cases hid : a.fields.find? (fun f : Field => isIdName f.name) with
  | none =>
      rw [List.find?_eq_none] at hid
      simp only [isIdName_iff] at hid
      simpa using fun f hf hname => absurd hname (hid f hf)
  | some id =>
      have hname : isIdName id.name = true :=
        List.find?_some (p := fun f : Field => isIdName f.name) hid
      rw [Option.bind_some, Option.map_eq_none_iff, List.find?_eq_none, not_and]
      constructor
      · rintro hnone - ⟨f, hf, hnamed⟩
        exact hnone f hf hnamed
      · intro hnames f hf hnamed
        exact hnames ⟨id, List.mem_of_find?_eq_some hid, isIdName_iff.1 hname⟩ ⟨f, hf, hnamed⟩

end Side

/-! ### The rules -/

/-- The rules, each named for the side with the key that refers. -/
inductive JoinRule where
  /-- A field of the source refers to one of the target. -/
  | sourceRefers
  /-- A field of the target refers to one of the source. -/
  | targetRefers
  /-- A field of the target is named after the source, which has an `id`. -/
  | targetNamed
  /-- A field of the source is named after the target, which has an `id`. -/
  | sourceNamed
  deriving DecidableEq

namespace JoinRule

/-- The place of a rule in the order. -/
def number : JoinRule → Nat
  | sourceRefers => 1
  | targetRefers => 2
  | targetNamed => 3
  | sourceNamed => 4

/-- Whether a rule has a match between two sides. -/
def Matches (naming : String → String → Prop) (source target : Side) : JoinRule → Prop
  | sourceRefers => source.Refers target
  | targetRefers => target.Refers source
  | targetNamed => source.Names naming target
  | sourceNamed => target.Names naming source

/-- Which keys a rule gives: those of its first match, each on its own side. -/
def Gives (naming : String → String → Prop) (source target : Side) (keys : Suggestion) :
    JoinRule → Prop
  | sourceRefers => source.ReferenceKeys target keys.sourceField keys.targetField
  | targetRefers => target.ReferenceKeys source keys.targetField keys.sourceField
  | targetNamed => source.NameKeys naming target keys.sourceField keys.targetField
  | sourceNamed => target.NameKeys naming source keys.targetField keys.sourceField

/-- Whatever rule gives the keys, the source key is a field of the source and the target key one of
the target. -/
theorem Gives.fields {naming : String → String → Prop} {source target : Side} {keys : Suggestion}
    {rule : JoinRule} (h : rule.Gives naming source target keys) :
    (∃ f ∈ source.fields, f.id = keys.sourceField) ∧
      ∃ f ∈ target.fields, f.id = keys.targetField := by
  cases rule with
  | sourceRefers => exact Side.ReferenceKeys.fields h
  | targetRefers => exact (Side.ReferenceKeys.fields h).symm
  | targetNamed => exact Side.NameKeys.fields h
  | sourceNamed => exact (Side.NameKeys.fields h).symm

end JoinRule

/-- What the rules say of an answer for two sides. -/
structure FollowsRules (naming : String → String → Prop) (source target : Side)
    (answer : Option Suggestion) : Prop where
  none_iff : answer = none ↔ ∀ rule : JoinRule, ¬ rule.Matches naming source target
  /-- The lowest-numbered rule with a match gives the keys. -/
  some_iff : ∀ keys, answer = some keys ↔
    ∃ rule : JoinRule, rule.Gives naming source target keys ∧
      ∀ earlier : JoinRule, earlier.number < rule.number → ¬ earlier.Matches naming source target
  oriented : ∀ keys, answer = some keys →
    (∃ f ∈ source.fields, f.id = keys.sourceField) ∧ ∃ f ∈ target.fields, f.id = keys.targetField

/-- The rules depend on what fields are named after the two sides only. -/
theorem FollowsRules.congr {naming naming' : String → String → Prop} {source target : Side}
    {answer : Option Suggestion}
    (hsource : ∀ field, naming source.name field ↔ naming' source.name field)
    (htarget : ∀ field, naming target.name field ↔ naming' target.name field)
    (h : FollowsRules naming source target answer) : FollowsRules naming' source target answer := by
  have hmatches (rule : JoinRule) :
      rule.Matches naming source target ↔ rule.Matches naming' source target := by
    cases rule <;> simp only [JoinRule.Matches, Side.Names, hsource, htarget]
  have hgives (rule : JoinRule) (keys : Suggestion) :
      rule.Gives naming source target keys ↔ rule.Gives naming' source target keys := by
    cases rule <;> simp only [JoinRule.Gives, Side.NameKeys, hsource, htarget]
  exact
    { none_iff := by simpa only [hmatches] using h.none_iff
      some_iff := by simpa only [hmatches, hgives] using h.some_iff
      oriented := h.oriented }

variable {source target : Side}

/-- Keys that come exchanged are the exchanged ones. -/
theorem map_swap_eq_some {answer : Option Suggestion} {keys : Suggestion} :
    answer.map Suggestion.swap = some keys ↔ answer = some keys.swap := by
  constructor
  · intro h
    obtain ⟨swapped, rfl, rfl⟩ := Option.map_eq_some_iff.1 h
    rfl
  · rintro rfl
    rfl

/-- **The suggestion is that of the lowest-numbered rule with a match.** -/
theorem suggest_eq_some_iff {keys : Suggestion} :
    suggest source target = some keys ↔
      ∃ rule : JoinRule, rule.Gives Side.IsReadAfter source target keys ∧
        ∀ earlier : JoinRule, earlier.number < rule.number →
          ¬ earlier.Matches Side.IsReadAfter source target := by
  simp only [suggest, Option.or_eq_some_iff, map_swap_eq_some, Option.map_eq_none_iff,
    Side.foreignKey?_eq_some_iff, Side.foreignKey?_eq_none_iff, Side.namedKey?_eq_some_iff,
    Side.namedKey?_eq_none_iff]
  constructor
  · rintro (h | ⟨hfirst, h | ⟨hsecond, h | ⟨hthird, h⟩⟩⟩)
    · refine ⟨.sourceRefers, h, ?_⟩
      rintro (_ | _ | _ | _) <;> simp [JoinRule.number]
    · refine ⟨.targetRefers, h, ?_⟩
      rintro (_ | _ | _ | _) <;> simp [JoinRule.number, JoinRule.Matches, hfirst]
    · refine ⟨.targetNamed, h, ?_⟩
      rintro (_ | _ | _ | _) <;> simp [JoinRule.number, JoinRule.Matches, hfirst, hsecond]
    · refine ⟨.sourceNamed, h, ?_⟩
      rintro (_ | _ | _ | _) <;> simp [JoinRule.number, JoinRule.Matches, hfirst, hsecond, hthird]
  · rintro ⟨rule, hgives, hearlier⟩
    cases rule with
    | sourceRefers => exact .inl hgives
    | targetRefers => exact .inr ⟨hearlier .sourceRefers (by decide), .inl hgives⟩
    | targetNamed =>
        exact .inr ⟨hearlier .sourceRefers (by decide), .inr ⟨hearlier .targetRefers (by decide),
          .inl hgives⟩⟩
    | sourceNamed =>
        exact .inr ⟨hearlier .sourceRefers (by decide), .inr ⟨hearlier .targetRefers (by decide),
          .inr ⟨hearlier .targetNamed (by decide), hgives⟩⟩⟩

theorem suggest_eq_none_iff :
    suggest source target = none ↔
      ∀ rule : JoinRule, ¬ rule.Matches Side.IsReadAfter source target := by
  simp only [suggest, Option.or_eq_none_iff, Option.map_eq_none_iff, Side.foreignKey?_eq_none_iff,
    Side.namedKey?_eq_none_iff]
  constructor
  · rintro ⟨hfirst, hsecond, hthird, hfourth⟩ (_ | _ | _ | _)
    · exact hfirst
    · exact hsecond
    · exact hthird
    · exact hfourth
  · intro h
    exact ⟨h .sourceRefers, h .targetRefers, h .targetNamed, h .sourceNamed⟩

/-- **The suggestion follows the rules**, with names as the search reads them. -/
theorem followsRules_suggest (source target : Side) :
    FollowsRules Side.IsReadAfter source target (suggest source target) where
  none_iff := suggest_eq_none_iff
  some_iff _ := suggest_eq_some_iff
  oriented keys h := by
    obtain ⟨rule, hgives, -⟩ := suggest_eq_some_iff.1 h
    exact hgives.fields

/-! ### The other direction -/

theorem Suggestion.swap_comp_swap : swap ∘ swap = id := rfl

/-- The first of two answers does not depend on their order, if one of them is none. -/
theorem or_comm_of_none {β : Type} {x y : Option β} (h : x = none ∨ y = none) :
    x.or y = y.or x := by
  rcases h with rfl | rfl <;> simp

/-- The keys by a reference, whichever way it goes, and those by a name come apart. -/
theorem suggest_eq_or (a b : Side) :
    suggest a b = ((a.foreignKey? b).or ((b.foreignKey? a).map Suggestion.swap)).or
      ((a.namedKey? b).or ((b.namedKey? a).map Suggestion.swap)) := by
  rw [suggest, Option.or_assoc]

/-- In the other direction both come in the other order. -/
theorem map_swap_suggest (a b : Side) :
    (suggest b a).map Suggestion.swap =
      (((b.foreignKey? a).map Suggestion.swap).or (a.foreignKey? b)).or
        (((b.namedKey? a).map Suggestion.swap).or (a.namedKey? b)) := by
  simp only [suggest_eq_or, Option.map_or, Option.map_map, Suggestion.swap_comp_swap,
    Option.map_id_fun, id]

/-- **The direction of a join does not matter**, unless it is ambiguous.  There are keys for the
one direction if and only if there are for the other, and they are the same keys exchanged if fields
do not refer to each other both ways, and, if no field refers to another one at all, the sides are
not named both ways. -/
theorem suggest_exchanged (a b : Side) :
    (suggest a b = none ↔ suggest b a = none) ∧
      (¬ (a.Refers b ∧ b.Refers a) →
        (¬ a.Refers b → ¬ b.Refers a →
          ¬ (a.Names Side.IsReadAfter b ∧ b.Names Side.IsReadAfter a)) →
        suggest a b = (suggest b a).map Suggestion.swap) := by
  constructor
  · simp only [suggest, Option.or_eq_none_iff, Option.map_eq_none_iff]
    constructor
    · rintro ⟨hfirst, hsecond, hthird, hfourth⟩
      exact ⟨hsecond, hfirst, hfourth, hthird⟩
    · rintro ⟨hfirst, hsecond, hthird, hfourth⟩
      exact ⟨hsecond, hfirst, hfourth, hthird⟩
  · intro hrefers hnames
    have hreferences : a.foreignKey? b = none ∨ (b.foreignKey? a).map Suggestion.swap = none := by
      rw [Option.map_eq_none_iff, Side.foreignKey?_eq_none_iff, Side.foreignKey?_eq_none_iff]
      exact Classical.not_and_iff_not_or_not.1 hrefers
    rw [suggest_eq_or, map_swap_suggest, or_comm_of_none hreferences]
    cases hfirst : ((b.foreignKey? a).map Suggestion.swap).or (a.foreignKey? b) with
    | some keys => rfl
    | none =>
        -- only now do names count
        obtain ⟨hback, hforth⟩ := Option.or_eq_none_iff.1 hfirst
        rw [Option.map_eq_none_iff, Side.foreignKey?_eq_none_iff] at hback
        rw [Side.foreignKey?_eq_none_iff] at hforth
        have hnone : a.namedKey? b = none ∨ (b.namedKey? a).map Suggestion.swap = none := by
          rw [Option.map_eq_none_iff, Side.namedKey?_eq_none_iff, Side.namedKey?_eq_none_iff]
          exact Classical.not_and_iff_not_or_not.1 (hnames hforth hback)
        rw [or_comm_of_none hnone]

/-- Orders that refer to their customers, and posts that are named after their users. -/
theorem suggest_exchanged_sample :
    let orders : Side := ⟨"orders", Sample.orders.fields⟩
    let customers : Side := ⟨"customers", Sample.customers.fields⟩
    let users : Side := ⟨"User", [⟨1, "ID", "", "type/Integer", none, none⟩]⟩
    let posts : Side := ⟨"posts", [⟨5, "id", "", "type/Integer", none, none⟩,
      ⟨6, "UserId", "", "type/Integer", none, none⟩]⟩
    (orders.Refers customers ∧ ¬ customers.Refers orders ∧
      suggest orders customers = (suggest customers orders).map Suggestion.swap ∧
      suggest orders customers = some ⟨11, 20⟩) ∧
    (¬ users.Refers posts ∧ ¬ posts.Refers users ∧ users.Names Side.IsReadAfter posts ∧
      ¬ posts.Names Side.IsReadAfter users ∧
      suggest users posts = (suggest posts users).map Suggestion.swap ∧
      suggest users posts = some ⟨1, 6⟩) := by
  intro orders customers users posts
  have horders : orders.Refers customers ∧ ¬ customers.Refers orders := by decide +kernel
  have husers : ¬ users.Refers posts ∧ ¬ posts.Refers users := by decide +kernel
  have hposts : users.Names Side.IsReadAfter posts ∧ ¬ posts.Names Side.IsReadAfter users := by
    decide +kernel
  refine ⟨⟨horders.1, horders.2, ?_, by decide +kernel⟩,
    husers.1, husers.2, hposts.1, hposts.2, ?_, by decide +kernel⟩
  · exact (suggest_exchanged orders customers).2 (fun h => horders.2 h.2)
      fun h => absurd horders.1 h
  · exact (suggest_exchanged users posts).2 (fun h => husers.1 h.1) fun _ _ h => hposts.2 h.2

/-- Two tables that refer to each other: each direction is by the key of its source. -/
example :
    let staff : Side := ⟨"staff", [⟨1, "id", "", "", none, none⟩, ⟨2, "in", "", "", none, some 3⟩]⟩
    let teams : Side := ⟨"teams", [⟨3, "id", "", "", none, none⟩, ⟨4, "of", "", "", none, some 1⟩]⟩
    suggest staff teams = some ⟨2, 3⟩ ∧ suggest teams staff = some ⟨4, 1⟩ := by
  decide

end QueryBuilder
