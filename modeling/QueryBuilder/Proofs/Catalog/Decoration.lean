/-
**Decorated names of types.**

Catalogs write the same type in many ways: with the namespace `type/` before its name, with white
space behind it, with an argument in parentheses, and in any case.  All of this is decoration, and
the class of a type does not depend on it.  The name itself must not look decorated: if it began with
a namespace of its own, then that would go in place of the one before it, and if it held a
parenthesis, then what is behind it would not count.

The decoration is put on before the text is lower-cased and is taken off afterwards.  That is no
matter of course, since lower-casing looks around in the text; but the slash, white space and the
parenthesis are characters without a case, which keep apart what is on their two sides.

Main definitions:

* `QueryBuilder.FieldClass.IsPlain` — a name of a type that does not look decorated;
* `QueryBuilder.FieldClass.Decoration`, `QueryBuilder.FieldClass.Decorates` — what may stand around
  a name, and the texts that are a name with decoration, in any case;
* `QueryBuilder.FieldClass.SameType` — two spellings of one type.

Main results:

* `QueryBuilder.FieldClass.coreName_decorate` — decoration is taken off again;
* `QueryBuilder.FieldClass.Decorates.ofBaseType_eq` — **the class of a type does not depend on
  decoration**.
-/

import QueryBuilder.Catalog.FieldClass
import QueryBuilder.Proofs.Text.Blank
import QueryBuilder.Proofs.Text.Recasing

set_option autoImplicit false

namespace QueryBuilder.FieldClass

open Text

/-! ### Names and decorations -/

/-- A name of a type that does not look decorated: it has no parenthesis, and does not begin with the
namespace in any case. -/
structure IsPlain (name : String) : Prop where
  no_parenthesis : '(' ∉ name.toList
  no_namespace : ¬ "type/".toList <+: name.toList.map Char.toLower

instance (name : String) : Decidable (IsPlain name) :=
  decidable_of_iff ('(' ∉ name.toList ∧ ¬ "type/".toList <+: name.toList.map Char.toLower)
    ⟨fun h => ⟨h.1, h.2⟩, fun h => ⟨h.no_parenthesis, h.no_namespace⟩⟩

/-- What stands around a name: the namespace or nothing before it, white space behind it, and an
opening parenthesis with any text behind it or nothing. -/
structure Decoration where
  namespaced : Bool
  blanks : String
  argument : Option String
  blank : isBlankText blanks = true

namespace Decoration

/-- What stands before the name. -/
def lead (d : Decoration) : String :=
  if d.namespaced then "type/" else ""

/-- What stands behind the name and the white space. -/
def tail (d : Decoration) : String :=
  match d.argument with
  | some behind => "(" ++ behind
  | none => ""

/-- A name with its decoration. -/
def decorate (d : Decoration) (name : String) : String :=
  d.lead ++ name ++ d.blanks ++ d.tail

variable (d : Decoration)

theorem isBlank_of_mem : ∀ c ∈ d.blanks.toList, isBlank c = true :=
  List.all_eq_true.1 d.blank

end Decoration

/-- A spelling of a type is its name with some decoration, up to the case of letters of ASCII. -/
def Decorates (name spelling : String) : Prop :=
  ∃ d : Decoration, SpelledAlike spelling (d.decorate name)

/-! ### Taking off the decoration -/

theorem uncased_slash : isCaseIgnorable '/' = false ∧ isCased '/' = false ∧ lowerChar '/' = ['/'] := by
  decide +kernel

theorem uncased_parenthesis :
    isCaseIgnorable '(' = false ∧ isCased '(' = false ∧ lowerChar '(' = ['('] := by
  decide +kernel

/-- Behind the slash, lower-casing starts afresh. -/
theorem lower_namespace_append (s : List Char) :
    lower ("type/".toList ++ s) = "type/".toList ++ lower s := by
  have hlead : lower "type".toList = "type".toList := by decide +kernel
  have happend := lower_append_cons uncased_slash.1 uncased_slash.2.1 "type".toList s
  rw [hlead, uncased_slash.2.2] at happend
  exact happend

theorem dropNamespace_append (s : List Char) : dropNamespace ("type/".toList ++ s) = s := by
  have hprefix : "type/".toList.isPrefixOf ("type/".toList ++ s) = true :=
    List.isPrefixOf_iff_prefix.2 (List.prefix_append _ _)
  rw [dropNamespace, if_pos hprefix]
  rfl

theorem dropNamespace_of_not_isPrefix {s : List Char} (h : ¬ "type/".toList <+: s) :
    dropNamespace s = s :=
  if_neg (mt List.isPrefixOf_iff_prefix.1 h)

/-- What a text begins with is in its first part, if it has no character in common with the start of
the second. -/
theorem isPrefix_of_isPrefix_append {start s t : List Char} (h : start <+: s ++ t)
    (ht : ∀ c ∈ t.head?, c ∉ start) : start <+: s := by
  induction s generalizing start with
  | nil =>
      cases start with
      | nil => exact List.nil_prefix
      | cons x start =>
          obtain ⟨rest, rfl⟩ := h
          exact absurd List.mem_cons_self (ht x rfl)
  | cons c s ih =>
      cases start with
      | nil => exact List.nil_prefix
      | cons x start =>
          rw [List.cons_append, List.cons_prefix_cons] at h
          rw [List.cons_prefix_cons]
          exact ⟨h.1, ih h.2 fun c hc hmem => ht c hc (List.mem_cons_of_mem _ hmem)⟩

/-- The lower-case form of what stands behind the white space. -/
theorem lower_tail (d : Decoration) (s : List Char) :
    ∃ rest, (rest = [] ∨ ∃ behind, rest = '(' :: behind) ∧
      lower (s ++ d.tail.toList) = lower s ++ rest := by
  cases hargument : d.argument with
  | none =>
      refine ⟨[], .inl rfl, ?_⟩
      simp [Decoration.tail, hargument]
  | some behind =>
      refine ⟨'(' :: lower behind.toList, .inr ⟨_, rfl⟩, ?_⟩
      have htail : d.tail.toList = '(' :: behind.toList := by simp [Decoration.tail, hargument]
      rw [htail, lower_append_cons uncased_parenthesis.1 uncased_parenthesis.2.1,
        uncased_parenthesis.2.2]
      rfl

/-- A parenthesis is in the lower-case form only of a text that has one. -/
theorem parenthesis_not_mem_lower {s : List Char} (h : '(' ∉ s) : '(' ∉ lower s := by
  intro hmem
  have hascii : OnlyFromAscii '(' := by decide
  obtain ⟨c, hc, hform⟩ := List.mem_map.1 (hascii.mem_map_of_mem_lowerFrom hmem)
  by_cases hcapital : 'A' ≤ c ∧ c ≤ 'Z'
  · have hsmall := toNat_lowerAscii_of_capital hcapital
    have hcode : '('.toNat = 40 := rfl
    have hge : 65 ≤ c.toNat := hcapital.1
    rw [hform] at hsmall
    omega
  · rw [lowerAscii_of_not_capital hcapital] at hform
    exact h (hform ▸ hc)

/-- A plain name in lower case does not begin with the namespace, whatever white space or parenthesis
follows it. -/
theorem IsPlain.not_isPrefix {name : String} (h : IsPlain name) {rest : List Char}
    (hrest : ∀ c ∈ rest.head?, c = '(' ∨ isBlank c = true) :
    ¬ "type/".toList <+: lower name.toList ++ rest := by
  intro hprefix
  have hnone : ("type/".toList.all fun c => c != '(' && !isBlank c) = true := by decide
  have hapart : ∀ c ∈ rest.head?, c ∉ "type/".toList := by
    intro c hc hmem
    have hplain := List.all_eq_true.1 hnone c hmem
    rw [Bool.and_eq_true, bne_iff_ne, Bool.not_eq_true'] at hplain
    rcases hrest c hc with heq | heq
    · exact hplain.1 heq
    · exact absurd (heq.symm.trans hplain.2) (by decide)
  have hascii : ∀ c ∈ "type/".toList, OnlyFromAscii c := by
    have hall : ("type/".toList.all fun c => decide (OnlyFromAscii c)) = true := by decide
    exact fun c hc => of_decide_eq_true (List.all_eq_true.1 hall c hc)
  have hname := isPrefix_map_of_isPrefix_lowerFrom hascii (isPrefix_of_isPrefix_append hprefix hapart)
  rw [funext lowerAscii_eq_toLower] at hname
  exact h.no_namespace hname

theorem takeWhile_of_rest {s rest : List Char} (hs : '(' ∉ s)
    (hrest : rest = [] ∨ ∃ behind, rest = '(' :: behind) :
    (s ++ rest).takeWhile (fun c => c != '(') = s := by
  have hall : ∀ c ∈ s, (c != '(') = true := by
    intro c hc
    rw [bne_iff_ne]
    rintro rfl
    exact hs hc
  rw [List.takeWhile_append_of_pos hall]
  rcases hrest with rfl | ⟨behind, rfl⟩
  · rw [List.takeWhile_nil, List.append_nil]
  · rw [List.takeWhile_cons_of_neg (by decide), List.append_nil]

/-- The namespace is taken off again, and nothing of the name, whether there is a namespace or
not. -/
theorem dropNamespace_lower_decorate {name : String} (h : IsPlain name) (d : Decoration) :
    ∃ rest, (rest = [] ∨ ∃ behind, rest = '(' :: behind) ∧
      dropNamespace (lower (d.decorate name).toList) =
        lower name.toList ++ d.blanks.toList ++ rest := by
  obtain ⟨rest, hrest, hlower⟩ := lower_tail d (name.toList ++ d.blanks.toList)
  rw [lower_append_blanks d.isBlank_of_mem] at hlower
  refine ⟨rest, hrest, ?_⟩
  have hdecorate : (d.decorate name).toList =
      d.lead.toList ++ (name.toList ++ d.blanks.toList ++ d.tail.toList) := by
    simp [Decoration.decorate]
  rw [hdecorate]
  cases hnamespaced : d.namespaced with
  | true =>
      rw [Decoration.lead, hnamespaced, if_pos rfl, lower_namespace_append, hlower,
        dropNamespace_append]
  | false =>
      have hlead : d.lead.toList = [] := by simp [Decoration.lead, hnamespaced]
      rw [hlead, List.nil_append, hlower]
      refine dropNamespace_of_not_isPrefix ?_
      rw [List.append_assoc]
      refine h.not_isPrefix fun c hc => ?_
      -- behind the name stands white space, or else the parenthesis
      rw [List.head?_append, Option.mem_def, Option.or_eq_some_iff] at hc
      rcases hc with hc | ⟨-, hc⟩
      · exact .inr (d.isBlank_of_mem c (List.mem_of_mem_head? hc))
      · rcases hrest with rfl | ⟨behind, rfl⟩
        · cases hc
        · exact .inl (Option.some.inj hc).symm

/-- **Decoration is taken off again**, and white space around the name with it. -/
theorem coreName_decorate {name : String} (h : IsPlain name) (d : Decoration) :
    coreName (d.decorate name) = trim (lower name.toList) := by
  have hblank := d.isBlank_of_mem
  have hparenthesis : '(' ∉ lower name.toList ++ d.blanks.toList := by
    rw [List.mem_append, not_or]
    refine ⟨parenthesis_not_mem_lower h.no_parenthesis, fun hmem => ?_⟩
    exact absurd (hblank _ hmem) (by decide)
  obtain ⟨rest, hrest, hdropped⟩ := dropNamespace_lower_decorate h d
  rw [coreName, hdropped, takeWhile_of_rest hparenthesis hrest, trim_append_blanks hblank]

/-- A name without decoration is decorated by nothing. -/
theorem decorates_self (name : String) : Decorates name name :=
  ⟨⟨false, "", none, rfl⟩, by simp [SpelledAlike, Decoration.decorate, Decoration.lead,
    Decoration.tail]⟩

/-- **The class of a type does not depend on decoration.** -/
theorem Decorates.ofBaseType_eq {name spelling : String} (hname : IsPlain name)
    (h : Decorates name spelling) : ofBaseType spelling = ofBaseType name := by
  have hcore : ∀ {s : String}, Decorates name s → coreName s = trim (lower name.toList) := by
    rintro s ⟨d, hs⟩
    rw [← coreName_decorate hname d, coreName, coreName, hs.lower_eq]
  rw [ofBaseType, ofBaseType, hcore h, hcore (decorates_self name)]

/-- Two texts are spellings of one type if they are the same text, or one plain name with decoration
on it in both. -/
inductive SameType (spelling : String) : String → Prop where
  | refl : SameType spelling spelling
  | decorated {other name : String} (plain : IsPlain name) (left : Decorates name spelling)
      (right : Decorates name other) : SameType spelling other

/-- Spellings of one type are of one class. -/
theorem SameType.ofBaseType_eq {spelling other : String} (h : SameType spelling other) :
    ofBaseType other = ofBaseType spelling := by
  cases h with
  | refl => rfl
  | decorated hname hleft hright => rw [hright.ofBaseType_eq hname, hleft.ofBaseType_eq hname]

end QueryBuilder.FieldClass
