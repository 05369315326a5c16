/-
**Blanks between the parts of a text.**

A value is printed with blanks between its parts or without.  The text with blanks, after those
outside of quotes are removed, is the text without: no part of a printed value but a quoted text
holds a blank, and no blank of a quoted text is removed.

Blanks are removed character by character.  A character is outside of quotes, between quotes, or
behind a backslash between quotes, where a quote does not close.

Main definitions:

* `QueryBuilder.Json.Spot` — where a character stands;
* `QueryBuilder.Json.squeezeFrom`, `QueryBuilder.Json.squeeze` — a text without blanks outside of
  quotes;
* `QueryBuilder.Json.isBare` — a character that is neither a blank nor a quote.

Main results:

* `QueryBuilder.Json.isBare_renderNumber` — numbers hold neither blanks nor quotes;
* `QueryBuilder.Json.squeezeFrom_quote` — quoted texts are left as they are;
* `QueryBuilder.Json.squeezeFrom_render` — **a printed value without its blanks**;
* `QueryBuilder.Json.squeeze_pretty` — the two texts of a value.
-/

import QueryBuilder.Proofs.Json.Values

set_option autoImplicit false

namespace QueryBuilder.Json

/-! ### Removing blanks -/

/-- Where a character of a text stands. -/
inductive Spot where
  /-- Outside of quotes. -/
  | outside
  /-- Between quotes. -/
  | quoted
  /-- Between quotes, behind a backslash. -/
  | escaped
  deriving DecidableEq, Repr

/-- The spot behind a character. -/
def Spot.next (c : Char) : Spot → Spot
  | outside => if c = '"' then quoted else outside
  | quoted => if c = '"' then outside else if c = '\\' then escaped else quoted
  | escaped => quoted

/-- The characters of a text from a spot on, without the blanks outside of quotes. -/
def squeezeFrom (spot : Spot) : List Char → List Char
  | [] => []
  | c :: rest =>
    if spot = .outside ∧ isGap c then squeezeFrom .outside rest
    else c :: squeezeFrom (spot.next c) rest

/-- A text without the blanks outside of quotes. -/
def squeeze (text : String) : String :=
  String.ofList (squeezeFrom .outside text.toList)

variable {rest : List Char}

/-- Blanks outside of quotes are removed. -/
theorem squeezeFrom_blanks {blanks : List Char} (h : ∀ c ∈ blanks, isGap c = true) :
    squeezeFrom .outside (blanks ++ rest) = squeezeFrom .outside rest := by
  induction blanks with
  | nil => rfl
  | cons c blanks ih =>
      rw [List.cons_append, squeezeFrom, if_pos ⟨rfl, h c List.mem_cons_self⟩,
        ih fun c hc => h c (List.mem_cons_of_mem _ hc)]

/-! ### Parts without blanks and quotes -/

/-- A character that is neither a blank nor a quote. -/
def isBare (c : Char) : Bool :=
  !isGap c && c != '"'

/-- Parts without blanks and quotes are left as they are. -/
theorem squeezeFrom_bare {s : List Char} (h : ∀ c ∈ s, isBare c = true) :
    squeezeFrom .outside (s ++ rest) = s ++ squeezeFrom .outside rest := by
  induction s with
  | nil => rfl
  | cons c s ih =>
      have hc := h c List.mem_cons_self
      simp only [isBare, Bool.and_eq_true, Bool.not_eq_true', bne_iff_ne] at hc
      rw [List.cons_append, squeezeFrom, if_neg (by simp [hc.1]), Spot.next, if_neg hc.2,
        ih fun c hc => h c (List.mem_cons_of_mem _ hc), List.cons_append]

/-- One character that is neither a blank nor a quote. -/
theorem squeezeFrom_cons {c : Char} (h : isBare c = true) :
    squeezeFrom .outside (c :: rest) = c :: squeezeFrom .outside rest :=
  squeezeFrom_bare (s := [c]) (by simpa using h)

theorem isBare_of_isDigit {c : Char} (h : c.isDigit = true) : isBare c = true := by
  have hne : ∀ other : Char, other.isDigit = false → c ≠ other := by
    rintro _ hother rfl
    rw [h] at hother
    cases hother
  simp only [isBare, isGap, Bool.and_eq_true, Bool.not_eq_true', bne_iff_ne, Bool.or_eq_false_iff,
    decide_eq_false_iff_not]
  exact ⟨⟨⟨⟨hne _ (by decide), hne _ (by decide)⟩, hne _ (by decide)⟩, hne _ (by decide)⟩,
    hne _ (by decide)⟩

/-- A text without blanks and quotes. -/
def Bare (s : String) : Prop :=
  ∀ c ∈ s.toList, isBare c = true

instance (s : String) : Decidable (Bare s) :=
  List.decidableBAll (fun c => isBare c = true) s.toList

theorem Bare.append {s t : String} (hs : Bare s) (ht : Bare t) : Bare (s ++ t) := by
  intro c hc
  rw [String.toList_append] at hc
  exact (List.mem_append.1 hc).elim (hs c) (ht c)

theorem Bare.part {s : String} (hs : Bare s) {cs : List Char} (h : ∀ c ∈ cs, c ∈ s.toList) :
    Bare (String.ofList cs) := by
  intro c hc
  rw [String.toList_ofList] at hc
  exact hs c (h c hc)

theorem bare_toString (n : Nat) : Bare (toString n) := by
  intro c hc
  have hdigits : (toString n).toList = Nat.toDigits 10 n := by simp
  rw [hdigits] at hc
  exact isBare_of_isDigit (Nat.isDigit_of_mem_toDigits (by decide) (by decide) hc)

theorem bare_zeros (n : Nat) : Bare (Decimal.zeros n) := by
  intro c hc
  rw [Decimal.zeros, String.toList_ofList] at hc
  rw [List.eq_of_mem_replicate hc]
  decide

/-- A decimal with its point in place holds neither blanks nor quotes. -/
theorem bare_positional {s : Decimal.Spelling} (h : Bare s.wholeMark) (n : Decimal.Scaled) :
    Bare (s.positional n) := by
  have hdigits := bare_toString n.digits
  have hpoint : Bare "." := by decide
  have hzero : Bare "0." := by decide
  unfold Decimal.Spelling.positional
  dsimp only
  split
  · exact (hdigits.append (bare_zeros _)).append h
  · split
    · exact ((hdigits.part fun _ => List.mem_of_mem_take).append hpoint).append
        (hdigits.part fun _ => List.mem_of_mem_drop)
    · exact (hzero.append (bare_zeros _)).append hdigits

/-- A decimal with an exponent holds neither blanks nor quotes. -/
theorem bare_exponential (n : Decimal.Scaled) : Bare (Decimal.exponential n) := by
  have hdigits := bare_toString n.digits
  have hpoint : Bare "." := by decide
  have hexponent : Bare "e" := by decide
  have hsign : ∀ negative : Prop, [Decidable negative] → Bare (if negative then "-" else "+") := by
    intro negative _
    split <;> decide
  unfold Decimal.exponential
  dsimp only
  refine ((((hdigits.part fun _ => List.mem_of_mem_take).append ?_).append hexponent).append
    (hsign _)).append (bare_toString _)
  split
  · decide
  · exact hpoint.append (hdigits.part fun _ => List.mem_of_mem_drop)

/-- The decimal of a finite double holds neither blanks nor quotes. -/
theorem bare_write? {x : Float} {text : String} (h : Decimal.document.write? x = some text) :
    Bare text := by
  obtain ⟨b, -, rfl⟩ := Option.map_eq_some_iff.1 h
  refine Bare.append ?_ ?_
  · split <;> decide
  · unfold Decimal.Spelling.write
    dsimp only
    split
    · exact bare_positional (by decide) _
    · split
      · exact bare_positional (by decide) _
      · exact bare_exponential _

/-- **Numbers hold neither blanks nor quotes.** -/
theorem isBare_renderNumber (n : Number) : ∀ c ∈ renderNumber n, isBare c = true := by
  cases n with
  | int n =>
      rw [renderNumber, Int.toString_eq_repr, Int.repr_eq_if]
      split
      · exact bare_toString n.toNat
      · have hminus : Bare "-" := by decide
        exact hminus.append (bare_toString (-n).toNat)
  | float x =>
      rw [renderNumber]
      cases hx : Decimal.document.write? x with
      | none => exact List.all_eq_true.1 (by decide)
      | some text => exact bare_write? hx

/-! ### Quoted texts -/

/-- A character between quotes that is neither a quote nor a backslash. -/
theorem squeezeFrom_quoted {c : Char} (hquote : c ≠ '"') (hbackslash : c ≠ '\\') :
    squeezeFrom .quoted (c :: rest) = c :: squeezeFrom .quoted rest := by
  rw [squeezeFrom, if_neg (by simp), Spot.next, if_neg hquote, if_neg hbackslash]

/-- A character behind a backslash. -/
theorem squeezeFrom_escaped (c : Char) :
    squeezeFrom .quoted ('\\' :: c :: rest) = '\\' :: c :: squeezeFrom .quoted rest := by
  rw [squeezeFrom, if_neg (by simp), Spot.next, if_neg (by decide), if_pos rfl, squeezeFrom,
    if_neg (by simp), Spot.next]

/-- A written character of a quoted text is left as it is, and the text goes on behind it. -/
theorem squeezeFrom_quoteChar (c : Char) :
    squeezeFrom .quoted (quoteChar c ++ rest) = quoteChar c ++ squeezeFrom .quoted rest := by
  have hhex : ∀ n < 16, hexDigit n ≠ '"' ∧ hexDigit n ≠ '\\' := by decide
  by_cases hquote : c = '"'
  · rw [hquote]
    exact squeezeFrom_escaped '"'
  by_cases hbackslash : c = '\\'
  · rw [hbackslash]
    exact squeezeFrom_escaped '\\'
  unfold quoteChar
  rw [if_neg hquote, if_neg hbackslash]
  split
  · exact squeezeFrom_escaped 'b'
  split
  · exact squeezeFrom_escaped 't'
  split
  · exact squeezeFrom_escaped 'n'
  split
  · exact squeezeFrom_escaped 'f'
  split
  · exact squeezeFrom_escaped 'r'
  split
  · next hcontrol =>
      obtain ⟨hhigh, hhigh'⟩ := hhex (c.toNat / 16) (by omega)
      obtain ⟨hlow, hlow'⟩ := hhex (c.toNat % 16) (by omega)
      simp only [List.cons_append, List.nil_append]
      rw [squeezeFrom_escaped, squeezeFrom_quoted (by decide) (by decide),
        squeezeFrom_quoted (by decide) (by decide), squeezeFrom_quoted hhigh hhigh',
        squeezeFrom_quoted hlow hlow']
  · exact squeezeFrom_quoted hquote hbackslash

/-- **Quoted texts are left as they are.** -/
theorem squeezeFrom_quote (s : String) :
    squeezeFrom .outside (quote s ++ rest) = quote s ++ squeezeFrom .outside rest := by
  have hinner : ∀ cs : List Char, squeezeFrom .quoted (cs.flatMap quoteChar ++ '"' :: rest) =
      cs.flatMap quoteChar ++ '"' :: squeezeFrom .outside rest := by
    intro cs
    induction cs with
    | nil => rw [List.flatMap_nil, List.nil_append, squeezeFrom, if_neg (by simp), Spot.next,
        if_pos rfl, List.nil_append]
    | cons c cs ih =>
        rw [List.flatMap_cons, List.append_assoc, squeezeFrom_quoteChar, ih, List.append_assoc]
  simp only [quote, List.cons_append, List.append_assoc, List.nil_append]
  rw [squeezeFrom, if_neg (by decide), Spot.next, if_pos rfl, hinner]

/-! ### Printed values -/

variable {style : Style}

mutual

/-- **A printed value without its blanks** is the value printed without any.  The induction is on
the value, with whatever follows it. -/
theorem squeezeFrom_render (hstyle : style.Blank) (depth : Nat) (rest : List Char) :
    (j : Json) → squeezeFrom .outside (render style depth j ++ rest) =
      render .compact depth j ++ squeezeFrom .outside rest
  | .null => squeezeFrom_bare (s := "null".toList) (List.all_eq_true.1 (by decide))
  | .bool true => squeezeFrom_bare (s := "true".toList) (List.all_eq_true.1 (by decide))
  | .bool false => squeezeFrom_bare (s := "false".toList) (List.all_eq_true.1 (by decide))
  | .number n => squeezeFrom_bare (isBare_renderNumber n)
  | .text s => squeezeFrom_quote s
  | .list [] => squeezeFrom_bare (s := ['[', ']']) (List.all_eq_true.1 (by decide))
  | .list (item :: items) => by
      simp only [render, List.cons_append, List.append_assoc, List.nil_append]
      rw [squeezeFrom_cons (by decide), squeezeFrom_blanks (hstyle.line _),
        squeezeFrom_render hstyle (depth + 1) _ item,
        squeezeFrom_renderItems hstyle (depth + 1) _ items, squeezeFrom_blanks (hstyle.line _),
        squeezeFrom_cons (by decide)]
      rfl
  | .record [] => squeezeFrom_bare (s := ['\x7b', '\x7d']) (List.all_eq_true.1 (by decide))
  | .record ((name, value) :: members) => by
      simp only [render, List.cons_append, List.append_assoc, List.nil_append]
      rw [squeezeFrom_cons (by decide), squeezeFrom_blanks (hstyle.line _), squeezeFrom_quote,
        squeezeFrom_cons (by decide), squeezeFrom_blanks hstyle.space,
        squeezeFrom_render hstyle (depth + 1) _ value,
        squeezeFrom_renderMembers hstyle (depth + 1) _ members,
        squeezeFrom_blanks (hstyle.line _), squeezeFrom_cons (by decide)]
      rfl

theorem squeezeFrom_renderItems (hstyle : style.Blank) (depth : Nat) (rest : List Char) :
    (items : List Json) → squeezeFrom .outside (renderItems style depth items ++ rest) =
      renderItems .compact depth items ++ squeezeFrom .outside rest
  | [] => rfl
  | item :: items => by
      simp only [renderItems, List.cons_append, List.append_assoc]
      rw [squeezeFrom_cons (by decide), squeezeFrom_blanks (hstyle.line _),
        squeezeFrom_render hstyle depth _ item, squeezeFrom_renderItems hstyle depth _ items]
      rfl

theorem squeezeFrom_renderMembers (hstyle : style.Blank) (depth : Nat) (rest : List Char) :
    (members : List (String × Json)) →
      squeezeFrom .outside (renderMembers style depth members ++ rest) =
        renderMembers .compact depth members ++ squeezeFrom .outside rest
  | [] => rfl
  | (name, value) :: members => by
      simp only [renderMembers, List.cons_append, List.append_assoc]
      rw [squeezeFrom_cons (by decide), squeezeFrom_blanks (hstyle.line _), squeezeFrom_quote,
        squeezeFrom_cons (by decide), squeezeFrom_blanks hstyle.space,
        squeezeFrom_render hstyle depth _ value, squeezeFrom_renderMembers hstyle depth _ members]
      rfl

end

/-- **The two texts of a value** differ in nothing but blanks, and neither does the line that is
printed. -/
theorem squeeze_pretty (j : Json) :
    squeeze j.pretty = j.compact ∧ squeeze (j.pretty ++ "\n") = j.compact := by
  have hline : ∀ rest : List Char, (∀ c ∈ rest, isGap c = true) →
      squeezeFrom .outside (render .indented 0 j ++ rest) = render .compact 0 j := by
    intro rest hrest
    have hnone : squeezeFrom .outside rest = [] := by
      have hblanks : squeezeFrom .outside (rest ++ []) = squeezeFrom .outside [] :=
        squeezeFrom_blanks hrest
      rwa [List.append_nil] at hblanks
    rw [squeezeFrom_render Style.blank_indented, hnone, List.append_nil]
  constructor
  · have hempty := hline [] (by simp)
    rw [List.append_nil] at hempty
    rw [squeeze, pretty, String.toList_ofList, hempty, compact]
  · have hend : ∀ c ∈ "\n".toList, isGap c = true := List.all_eq_true.1 (by decide)
    rw [squeeze, pretty, String.toList_append, String.toList_ofList, hline _ hend, compact]

end QueryBuilder.Json
