/-
**The keys of a join do not depend on how names are spelled.**

Names of tables and fields are read by the rules for the keys of a join in two ways.  A field named
`id` is recognised by its letters of ASCII alone; a field that is named after an owner is compared
in the lower-case form of the whole of Unicode, in which the form of a capital sigma depends on the
characters around it.  Neither way sees in which case a letter of ASCII is written.  So two sides
can be spelled anew, each name by itself, and the rules give the same keys.

Main definitions:

* `QueryBuilder.Field.SpelledAlike`, `QueryBuilder.Side.SpelledAlike` — fields and sides that differ
  in the case of names, as far as the rules look at them.

Main results:

* `QueryBuilder.Side.foreignKey?_spelledAlike`, `QueryBuilder.Side.namedKey?_spelledAlike` — the two
  kinds of rules;
* `QueryBuilder.suggest_spelledAlike` — **the keys of a join do not depend on the case of names**.
-/

import Mathlib.Data.List.Forall2
import QueryBuilder.Proofs.Graph.Suggestion
import QueryBuilder.Proofs.Text.Recasing

set_option autoImplicit false

namespace QueryBuilder

/-! ### Searches in two lists at a time -/

section Searches

variable {β γ δ : Type} {R : β → γ → Prop} {items : List β} {others : List γ}

/-- Searches for items that are alike find items that are. -/
theorem find?_rel {p : β → Bool} {q : γ → Bool} (h : List.Forall₂ R items others)
    (hfound : ∀ b c, R b c → p b = q c) : Option.Rel R (items.find? p) (others.find? q) := by
  induction h with
  | nil => exact .none
  | cons hbc _ ih =>
      rw [List.find?_cons, List.find?_cons, hfound _ _ hbc]
      split
      · exact .some hbc
      · exact ih

/-- Items that are alike, if there are any, have the same key. -/
theorem map_eq_of_rel {x : Option β} {y : Option γ} {key : β → δ} {key' : γ → δ}
    (h : Option.Rel R x y) (hkey : ∀ b c, R b c → key b = key' c) : x.map key = y.map key' := by
  cases h with
  | none => rfl
  | some hbc => rw [Option.map_some, Option.map_some, hkey _ _ hbc]

/-- There is something on both sides or on none. -/
theorem isSome_eq_of_rel {x : Option β} {y : Option γ} (h : Option.Rel R x y) :
    x.isSome = y.isSome := by
  cases h with
  | none => rfl
  | some _ => rfl

/-- Searches that make the same of items that are alike have the same result. -/
theorem findSome?_of_forall₂ {f : β → Option δ} {g : γ → Option δ}
    (h : List.Forall₂ R items others) (hfg : ∀ b c, R b c → f b = g c) :
    items.findSome? f = others.findSome? g := by
  induction h with
  | nil => rfl
  | cons hbc _ ih => rw [List.findSome?_cons, List.findSome?_cons, hfg _ _ hbc, ih]

end Searches

/-! ### Sides in another spelling -/

/-- Fields whose names differ in the case of letters of ASCII; the rest that rules look at is the
same. -/
structure Field.SpelledAlike (f f' : Field) : Prop where
  id : f.id = f'.id
  references : f.references = f'.references
  name : Text.SpelledAlike f.name f'.name

namespace Side

/-- Sides whose names differ in the case of letters of ASCII, and the names of their fields too. -/
structure SpelledAlike (a a' : Side) : Prop where
  name : Text.SpelledAlike a.name a'.name
  fields : List.Forall₂ Field.SpelledAlike a.fields a'.fields

theorem isIdName_spelledAlike {s t : String} (h : Text.SpelledAlike s t) :
    isIdName s = isIdName t := by
  rw [isIdName, isIdName, h.map_lowerAscii_eq]

theorem isNamedAfter_spelledAlike {owner owner' field field' : String}
    (howner : Text.SpelledAlike owner owner') (hfield : Text.SpelledAlike field field') :
    isNamedAfter owner field = isNamedAfter owner' field' := by
  simp only [isNamedAfter, howner.lower_eq, hfield.lower_eq]

variable {a a' b b' : Side}

/-- Rules about references do not look at names. -/
theorem foreignKey?_spelledAlike (ha : a.SpelledAlike a') (hb : b.SpelledAlike b') :
    a.foreignKey? b = a'.foreignKey? b' := by
  refine findSome?_of_forall₂ ha.fields fun f f' hf => ?_
  rw [hf.references]
  cases f'.references with
  | none => rfl
  | some referred =>
      refine map_eq_of_rel (find?_rel hb.fields fun t t' ht => ?_) fun t t' ht => ?_
      · rw [ht.id]
      · rw [hf.id, ht.id]

/-- Rules about names do not look at the case of their letters. -/
theorem namedKey?_spelledAlike (ha : a.SpelledAlike a') (hb : b.SpelledAlike b') :
    a.namedKey? b = a'.namedKey? b' := by
  have howner : (a.fields.find? fun f => isIdName f.name).map (·.id) =
      (a'.fields.find? fun f => isIdName f.name).map (·.id) :=
    map_eq_of_rel (find?_rel ha.fields fun _ _ h => isIdName_spelledAlike h.name) fun _ _ h => h.id
  have hother : (b.fields.find? fun f => isNamedAfter a.name f.name).map (·.id) =
      (b'.fields.find? fun f => isNamedAfter a'.name f.name).map (·.id) :=
    map_eq_of_rel (find?_rel hb.fields fun _ _ h => isNamedAfter_spelledAlike ha.name h.name)
      fun _ _ h => h.id
  -- both keys are ids, so what was found can be given by its id alone
  have hids : ∀ owner other : Side, owner.namedKey? other =
      ((owner.fields.find? fun f => isIdName f.name).map (·.id)).bind fun id =>
        ((other.fields.find? fun f => isNamedAfter owner.name f.name).map (·.id)).map
          (Suggestion.mk id) := by
    intro owner other
    rw [namedKey?, Option.bind_map]
    simp only [Option.map_map]
    rfl
  rw [hids, hids, howner, hother]

end Side

/-- **The keys of a join do not depend on the case of names.**  The name of each side and the names
of all fields can be spelled anew, independently of each other, by changing the case of letters of
ASCII among whatever other characters; the suggestion stays the same. -/
theorem suggest_spelledAlike {a a' b b' : Side} (ha : a.SpelledAlike a')
    (hb : b.SpelledAlike b') : suggest a b = suggest a' b' := by
  rw [suggest, suggest, Side.foreignKey?_spelledAlike ha hb, Side.foreignKey?_spelledAlike hb ha,
    Side.namedKey?_spelledAlike ha hb, Side.namedKey?_spelledAlike hb ha]

/-- An owner whose name has a capital sigma at the end of a word and another one before a letter; a
field is named after it, and comes before one that is spelled like it without the ending. -/
theorem suggest_spelledAlike_sample :
    let streets : Side := ⟨"Street ΟΔΟΣ-ΣIX", [⟨1, "iD", "", "type/Integer", none, none⟩]⟩
    let streets' : Side := ⟨"sTREET ΟΔΟΣ-Σix", [⟨1, "Id", "", "type/Integer", none, none⟩]⟩
    let houses : Side := ⟨"Häuser", [⟨5, "street οδος-σix", "", "type/Text", none, none⟩,
      ⟨6, "street οδος-σix_ID", "", "type/Integer", none, none⟩]⟩
    let houses' : Side := ⟨"häUSER", [⟨5, "STREET οδος-σIX", "", "type/Text", none, none⟩,
      ⟨6, "Street οδος-σIx_id", "", "type/Integer", none, none⟩]⟩
    streets.SpelledAlike streets' ∧ houses.SpelledAlike houses' ∧
      suggest streets houses = suggest streets' houses' ∧
      suggest streets houses = some ⟨1, 6⟩ := by
  intro streets streets' houses houses'
  have hstreets : streets.SpelledAlike streets' :=
    ⟨by decide, .cons ⟨rfl, rfl, by decide⟩ .nil⟩
  have hhouses : houses.SpelledAlike houses' :=
    ⟨by decide, .cons ⟨rfl, rfl, by decide⟩ (.cons ⟨rfl, rfl, by decide⟩ .nil)⟩
  exact ⟨hstreets, hhouses, suggest_spelledAlike hstreets hhouses, by decide +kernel⟩

end QueryBuilder
