/-
**What decoders make of written values.**

Each decoder has one law: what it makes of a value that was written for it.  A record is read by the
names of its members, and so its law is about looking up a name among the members that were
written; a member that is left out has its default.

Main definitions:

* `QueryBuilder.Json.Recovers` — a decoder gives back what was written;
* `QueryBuilder.Json.Fields.ofMembers` — the members of a written record, as a decoder sees them.

Main results:

* `QueryBuilder.Json.recovers_int64`, `QueryBuilder.Json.recovers_nat64`,
  `QueryBuilder.Json.recovers_double`, `QueryBuilder.Json.recovers_word`,
  `QueryBuilder.Json.recovers_nullable`, `QueryBuilder.Json.recovers_listOf` — scalars, words,
  values that may be `null`, and lists;
* `QueryBuilder.Json.recordOf_members`, `QueryBuilder.Json.recordOf_record` — **the record that is
  read has the members that were written**;
* `QueryBuilder.Json.Fields.required_ofMembers`, `QueryBuilder.Json.Fields.withDefault_ofMembers`,
  `QueryBuilder.Json.Fields.withDefault_ifPresent`, `QueryBuilder.Json.Fields.optional_ofMembers` —
  its members by name.
-/

import QueryBuilder.Json.Decoder

set_option autoImplicit false

namespace QueryBuilder.Json

variable {α β : Type}

/-- A decoder gives back a value that was written for it. -/
def Recovers (decode : Decoder α) (encode : α → Json) (a : α) : Prop :=
  decode (encode a).draft = .ok a

/-! ### Scalars and words -/

theorem recovers_int64 {n : Int} (h : isInt64 n = true) : Recovers int64 .int n :=
  if_pos h

theorem recovers_nat64 {n : Nat} (h : isNat64 n = true) : Recovers nat64 .nat n :=
  if_pos h

theorem recovers_double (x : Float) : Recovers double .float x := rfl

theorem recovers_string (s : String) : Recovers string .text s := rfl

/-- A word is found among words that are all different. -/
theorem lookup_spelled {all : List α} {spell : α → String} {a : α} (ha : a ∈ all)
    (h : (all.map spell).Nodup) : (all.map fun a => (spell a, a)).lookup (spell a) = some a := by
  induction all with
  | nil => cases ha
  | cons b all ih =>
      rw [List.map_cons, List.nodup_cons] at h
      rw [List.map_cons, List.lookup_cons]
      rcases List.mem_cons.1 ha with rfl | ha
      · rw [beq_self_eq_true]
      · have hne : spell a ≠ spell b := fun heq =>
          h.1 (heq ▸ List.mem_map_of_mem ha)
        rw [beq_false_of_ne hne]
        exact ih ha h.2

/-- The member that a word stands for is read from the word. -/
theorem recovers_word {all : List α} {spell : α → String} {a : α} (ha : a ∈ all)
    (h : (all.map spell).Nodup) :
    Recovers (word (all.map fun a => (spell a, a))) (fun a => .text (spell a)) a := by
  show lookUpWord _ _ = _
  rw [lookUpWord, lookup_spelled ha h]

/-! ### Values made of others -/

/-- A value that may be absent, if it is not written as `null`. -/
theorem recovers_nullable {decode : Decoder α} {encode : α → Json} {o : Option α}
    (h : ∀ a ∈ o, Recovers decode encode a ∧ encode a ≠ .null) :
    Recovers (nullable decode) (optional encode) o := by
  cases o with
  | none => rfl
  | some a =>
      obtain ⟨hrecovers, hnull⟩ := h a rfl
      have hdraft : nullable decode (encode a).draft = (decode (encode a).draft).map some := by
        cases hj : encode a with
        | null => exact absurd hj hnull
        | _ => rfl
      show nullable decode (encode a).draft = _
      rw [hdraft, hrecovers]
      rfl

/-- A list whose items are given back. -/
theorem recovers_listOf {decode : Decoder α} {encode : α → Json} {items : List α}
    (h : ∀ a ∈ items, Recovers decode encode a) :
    Recovers (listOf decode) (fun items => .list (items.map encode)) items := by
  show (drafts (items.map encode)).mapM decode = .ok items
  induction items with
  | nil => rfl
  | cons a items ih =>
      rw [List.map_cons, drafts, List.mapM_cons, h a List.mem_cons_self,
        ih fun a ha => h a (List.mem_cons_of_mem _ ha)]
      rfl

/-! ### Records -/

/-- Members with their places. -/
def placed (place : Nat) : List (String × Json) → List (String × Nat × Draft)
  | [] => []
  | (name, value) :: rest => (name, place, value.draft) :: placed (place + 1) rest

/-- The members of a written record. -/
def Fields.ofMembers (members : List (String × Json)) : Fields :=
  ⟨placed 0 members, none, members.length, true⟩

/-- Members with different wanted names are all found, behind those that were found before. -/
theorem collect_memberDrafts {names : List String} {closed : Bool}
    {found : List (String × Nat × Draft)} {members : List (String × Json)} (place : Nat)
    (hwanted : ∀ m ∈ members, m.1 ∈ names)
    (hnodup : (found.map (·.1) ++ members.map (·.1)).Nodup) :
    collect names closed place found (memberDrafts members) =
      (found.reverse ++ placed place members, none) := by
  induction members generalizing place found with
  | nil => simp [memberDrafts, collect, placed]
  | cons m members ih =>
      obtain ⟨name, value⟩ := m
      have hname : names.contains name = true :=
        List.contains_iff_mem.2 (hwanted _ List.mem_cons_self)
      have hfresh : (found.any fun entry => entry.1 == name) = false := by
        rw [List.map_cons] at hnodup
        have hdisjoint := (List.nodup_append.1 hnodup).2.2
        simp only [List.any_eq_false, beq_iff_eq]
        intro entry hentry heq
        exact hdisjoint _ (List.mem_map_of_mem hentry) _ List.mem_cons_self heq
      -- what is found next must differ from this member too
      have hperm : (((name, place, value.draft) :: found).map (·.1) ++ members.map (·.1)).Nodup := by
        rw [List.map_cons, List.cons_append]
        exact (List.perm_middle.nodup_iff).1 hnodup
      rw [memberDrafts, collect, if_pos hname, if_neg (by rw [hfresh]; decide),
        ih (place + 1) (fun m hm => hwanted m (List.mem_cons_of_mem _ hm)) hperm]
      simp [placed]

/-- **A record is read by its members**, in whatever order they stand, if they have different wanted
names. -/
theorem recordOf_members {names : List String} {closed : Bool} {build : Fields → Reading α}
    {members : List (String × Json)} (hwanted : ∀ m ∈ members, m.1 ∈ names)
    (hnodup : (members.map (·.1)).Nodup) :
    recordOf names closed build (Json.record members).draft =
      (build (.ofMembers members)).toExcept := by
  have hcollect : collect names closed 0 [] (memberDrafts members) = (placed 0 members, none) :=
    collect_memberDrafts 0 hwanted (by simpa using hnodup)
  have hlength : (memberDrafts members).length = members.length := by
    rw [memberDrafts_eq_map, List.length_map]
  have hfields : Fields.ofDraft names closed (Json.record members).draft =
      .ok (.ofMembers members) := by
    simp only [draft, Fields.ofDraft, hcollect, hlength]
    rfl
  rw [recordOf, hfields]
  rfl

/-- **A record is read by the members that were written**, if their names are some of the wanted
ones and in the same order. -/
theorem recordOf_record {names : List String} {closed : Bool} {build : Fields → Reading α}
    {members : List (String × Json)} (hnames : names.Nodup)
    (hsub : (members.map (·.1)).Sublist names) :
    recordOf names closed build (Json.record members).draft =
      (build (.ofMembers members)).toExcept :=
  recordOf_members (fun _ hm => hsub.subset (List.mem_map_of_mem hm)) (hnames.sublist hsub)

namespace Fields

variable {members : List (String × Json)} {name : String} {decode : Decoder α}
  {encode : α → Json} {a : α}

/-- A name is looked up among the members that were written. -/
theorem lookup_placed (place : Nat) (members : List (String × Json)) (name : String) :
    ((placed place members).lookup name).map (·.2) = (members.lookup name).map draft := by
  induction members generalizing place with
  | nil => rfl
  | cons m members ih =>
      obtain ⟨other, value⟩ := m
      rw [placed, List.lookup_cons, List.lookup_cons]
      cases name == other with
      | true => rfl
      | false => exact ih (place + 1)

/-- A member is read from the value under its name. -/
theorem read?_of_lookup {value : Json} (hlookup : members.lookup name = some value)
    (h : decode value.draft = .ok a) : (ofMembers members).read? name decode = some (.done a) := by
  have hdraft := lookup_placed 0 members name
  rw [hlookup, Option.map_some] at hdraft
  obtain ⟨⟨place, d⟩, hfound, hd⟩ := Option.map_eq_some_iff.1 hdraft
  have hvalue : decode d = .ok a := by
    rw [show d = value.draft from hd]
    exact h
  simp only [read?, ofMembers, hfound, Option.map_some, hvalue]

/-- A member is read from what was written under its name. -/
theorem read?_ofMembers (hlookup : members.lookup name = some (encode a))
    (h : Recovers decode encode a) : (ofMembers members).read? name decode = some (.done a) :=
  read?_of_lookup hlookup h

/-- A member that was left out is not there. -/
theorem read?_ofMembers_none (hlookup : members.lookup name = none) :
    (ofMembers members).read? name decode = none := by
  have hdraft := lookup_placed 0 members name
  rw [hlookup, Option.map_none, Option.map_eq_none_iff] at hdraft
  rw [read?, ofMembers, hdraft, Option.map_none]

theorem required_ofMembers (hlookup : members.lookup name = some (encode a))
    (h : Recovers decode encode a) : (ofMembers members).required name decode = .done a := by
  rw [required, read?_ofMembers hlookup h, Option.getD_some]

theorem withDefault_ofMembers {default : α} (hlookup : members.lookup name = some (encode a))
    (h : Recovers decode encode a) :
    (ofMembers members).withDefault name default decode = .done a := by
  rw [withDefault, read?_ofMembers hlookup h, Option.getD_some]

theorem optional_ofMembers {o : Option α} (hlookup : members.lookup name = some (.optional encode o))
    (h : Recovers (nullable decode) (.optional encode) o) :
    (ofMembers members).optional name decode = .done o := by
  rw [optional, read?_ofMembers hlookup h, Option.getD_some]

/-- A member that is left out if it is absent. -/
theorem withDefault_ifPresent {o : Option α} (hlookup : members.lookup name = o.map encode)
    (h : ∀ a ∈ o, Recovers decode encode a ∧ encode a ≠ .null) :
    (ofMembers members).withDefault name none (nullable decode) = .done o := by
  cases o with
  | none => rw [withDefault, read?_ofMembers_none hlookup, Option.getD_none]
  | some a =>
      have hpresent : members.lookup name = some (.optional encode (some a)) := hlookup
      exact withDefault_ofMembers hpresent (recovers_nullable h)

end Fields

/-! ### Names of written members -/

@[simp] theorem lookup_member (name other : String) (value : Json)
    (members : List (String × Json)) :
    ((other, value) :: members).lookup name =
      if name = other then some value else members.lookup name := by
  rw [List.lookup_cons]
  by_cases h : name = other
  · rw [if_pos h, beq_iff_eq.2 h]
  · rw [if_neg h, beq_false_of_ne h]

theorem names_ifPresent (name : String) (encode : α → Json) (o : Option α) :
    ((ifPresent name encode o).map (·.1)).Sublist [name] := by
  cases o with
  | none => exact List.nil_sublist _
  | some a => exact List.Sublist.refl _

@[simp] theorem lookup_ifPresent (name other : String) (encode : α → Json) (o : Option α) :
    (ifPresent name encode o).lookup other = if other = name then o.map encode else none := by
  cases o with
  | none => simp [ifPresent]
  | some a =>
      rw [ifPresent, lookup_member]
      rfl

/-! ### Parts that were all read -/

namespace Reading

theorem map_eq_done {f : α → β} {x : Reading α} {a : α} (hx : x = .done a) :
    f <$> x = .done (f a) := by
  rw [hx]
  rfl

theorem seq_eq_done {f : Reading (α → β)} {x : Reading α} {g : α → β} {a : α} (hf : f = .done g)
    (hx : x = .done a) : f <*> x = .done (g a) := by
  rw [hf, hx]
  rfl

/-- A family is read if all its parts are. -/
theorem family_eq_done {ι : Type} {indices : List ι} {part : ι → Reading α} {absent : α}
    {value : ι → α} (h : ∀ i, part i = .done (value i)) :
    family indices part absent = .done value := by
  have hall : indices.foldl (fun seen i => (fun _ _ => ()) <$> seen <*> part i) (.done ()) =
      (.done () : Reading Unit) := by
    induction indices with
    | nil => rfl
    | cons i indices ih =>
        rw [List.foldl_cons, h i]
        exact ih
  rw [family, hall]
  simp only [h]
  rfl

theorem toExcept_eq_ok {x : Reading α} {a : α} (hx : x = .done a) : x.toExcept = .ok a := by
  rw [hx]
  rfl

end Reading

end QueryBuilder.Json
