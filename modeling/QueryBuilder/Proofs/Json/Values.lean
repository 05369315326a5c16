/-
**Printed values read back.**

A value that is printed with any blanks between its parts, or none, is what the reader finds in the
text, provided that each of its numbers reads back and that it is not nested too deeply.  If a number
is read as another one, then this one stands in its place, and everything else is found as it was.
The proof goes along the printed text: every part is found in front of whatever may follow it there,
and each unit of fuel is paid for by a character.

Main definitions:

* `QueryBuilder.Json.Style.Blank` — a style that puts nothing but blanks between the parts;
* `QueryBuilder.Json.Readable` — a value with numbers that read back, not nested too deeply;
* `QueryBuilder.Json.ReadsAs` — a value with the numbers that are read in place of its own.

Main results:

* `QueryBuilder.Json.reads` — a printed value is found in front of what may follow it, and so are
  items and members in front of their closing brackets;
* `QueryBuilder.Json.ofText_render_as` — what is found in the text of a value;
* `QueryBuilder.Json.ofText_render` — **a printed value reads back**.
-/

import QueryBuilder.Proofs.Json.Numbers
import QueryBuilder.Proofs.Json.Texts

set_option autoImplicit false

namespace QueryBuilder.Json

/-! ### Blanks -/

/-- Nothing but blanks stands between the parts of a printed text. -/
structure Style.Blank (style : Style) : Prop where
  line : ∀ depth, ∀ c ∈ style.line depth, isGap c = true
  space : ∀ c ∈ style.space, isGap c = true

theorem Style.blank_compact : Style.compact.Blank where
  line := fun _ _ hc => absurd hc List.not_mem_nil
  space := fun _ hc => absurd hc List.not_mem_nil

theorem Style.blank_indented : Style.indented.Blank where
  line := by
    intro depth c hc
    rcases List.mem_cons.1 hc with rfl | hc
    · rfl
    · rw [List.eq_of_mem_replicate hc]
      rfl
  space := by
    intro c hc
    rw [List.mem_singleton.1 hc]
    rfl

/-- Blanks are skipped. -/
theorem skipGap_append {blanks : List Char} (h : ∀ c ∈ blanks, isGap c = true) (s : List Char) :
    skipGap (blanks ++ s) = skipGap s :=
  List.dropWhile_append_of_pos h

/-- A text that begins with no blank is left as it is. -/
theorem skipGap_of_head {c : Char} (h : isGap c = false) (s : List Char) :
    skipGap (c :: s) = c :: s :=
  List.dropWhile_cons_of_neg (by rw [h]; decide)

/-- Blanks do not continue a number. -/
theorem endsNumber_append {blanks rest : List Char} (h : ∀ c ∈ blanks, isGap c = true)
    (hrest : EndsNumber rest) : EndsNumber (blanks ++ rest) := by
  cases blanks with
  | nil => exact hrest
  | cons c blanks =>
      intro c' hc'
      have hgap : isGap c' = true := by
        rw [← Option.mem_some.1 hc']
        exact h c List.mem_cons_self
      simp only [isGap, Bool.or_eq_true, decide_eq_true_eq] at hgap
      rcases hgap with ((rfl | rfl) | rfl) | rfl <;> decide

/-- What follows a part of a list or record does not continue a number. -/
theorem endsNumber_cons {c : Char} (h : c = ',' ∨ c = ']' ∨ c = '\x7d') (rest : List Char) :
    EndsNumber (c :: rest) := by
  intro c' hc'
  cases hc'
  rcases h with rfl | rfl | rfl <;> decide

/-! ### Values that can be read -/

mutual

/-- A value inside `depth` containers whose numbers read back and whose parts are not nested too
deeply. -/
def Readable (depth : Nat) : Json → Prop
  | .number n => n.ReadsBack
  | .list items => depth + 1 ≤ deepest ∧ ItemsReadable (depth + 1) items
  | .record members => depth + 1 ≤ deepest ∧ MembersReadable (depth + 1) members
  | _ => True

/-- Items that can be read. -/
def ItemsReadable (depth : Nat) : List Json → Prop
  | [] => True
  | item :: rest => item.Readable depth ∧ ItemsReadable depth rest

/-- Members that can be read. -/
def MembersReadable (depth : Nat) : List (String × Json) → Prop
  | [] => True
  | (_, value) :: rest => value.Readable depth ∧ MembersReadable depth rest

end

theorem itemsReadable_iff {depth : Nat} {items : List Json} :
    ItemsReadable depth items ↔ ∀ item ∈ items, item.Readable depth := by
  induction items with
  | nil => simp [ItemsReadable]
  | cons item items ih => simp [ItemsReadable, ih]

theorem membersReadable_iff {depth : Nat} {members : List (String × Json)} :
    MembersReadable depth members ↔ ∀ m ∈ members, m.2.Readable depth := by
  induction members with
  | nil => simp [MembersReadable]
  | cons m members ih => simp [MembersReadable, ih]

mutual

/-- A value with the numbers that are read in place of its own, if the reader takes it up inside
`depth` containers. -/
def ReadsAs (depth : Nat) : Json → Json → Prop
  | .number n, found => ∃ m, found = .number m ∧ n.ReadsAs m
  | .list items, found =>
    depth + 1 ≤ deepest ∧ ∃ items', found = .list items' ∧ ItemsReadAs (depth + 1) items items'
  | .record members, found =>
    depth + 1 ≤ deepest ∧
      ∃ members', found = .record members' ∧ MembersReadAs (depth + 1) members members'
  | value, found => found = value

/-- Items with the numbers that are read in place of theirs. -/
def ItemsReadAs (depth : Nat) : List Json → List Json → Prop
  | [], found => found = []
  | item :: rest, found =>
    ∃ item' rest', found = item' :: rest' ∧ item.ReadsAs depth item' ∧ ItemsReadAs depth rest rest'

/-- Members with the numbers that are read in place of theirs, under the same names. -/
def MembersReadAs (depth : Nat) : List (String × Json) → List (String × Json) → Prop
  | [], found => found = []
  | (name, value) :: rest, found =>
    ∃ value' rest', found = (name, value') :: rest' ∧ value.ReadsAs depth value' ∧
      MembersReadAs depth rest rest'

end

mutual

/-- A value whose numbers read back is read as itself. -/
theorem Readable.readsAs {depth : Nat} : {j : Json} → j.Readable depth → j.ReadsAs depth j
  | .null, _ | .bool _, _ | .text _, _ => rfl
  | .number n, h => ⟨n, rfl, h⟩
  | .list items, h => ⟨h.1, items, rfl, itemsReadAs_of_readable items h.2⟩
  | .record members, h => ⟨h.1, members, rfl, membersReadAs_of_readable members h.2⟩

theorem itemsReadAs_of_readable {depth : Nat} :
    (items : List Json) → ItemsReadable depth items → ItemsReadAs depth items items
  | [], _ => rfl
  | item :: rest, h => ⟨item, rest, rfl, h.1.readsAs, itemsReadAs_of_readable rest h.2⟩

theorem membersReadAs_of_readable {depth : Nat} :
    (members : List (String × Json)) → MembersReadable depth members →
      MembersReadAs depth members members
  | [], _ => rfl
  | (_, value) :: rest, h => ⟨value, rest, rfl, h.1.readsAs, membersReadAs_of_readable rest h.2⟩

end

/-! ### First characters -/

/-- Whether a character begins a number. -/
def startsNumber (c : Char) : Bool :=
  c = '-' || c.isDigit

/-- A number begins with a minus or a digit. -/
theorem head_of_scanNumber {s : List Char} {found : Numeral × List Char}
    (h : scanNumber s = some found) : ∃ c t, s = c :: t ∧ startsNumber c = true := by
  rcases s with _ | ⟨c, t⟩
  · cases h
  · refine ⟨c, t, rfl, ?_⟩
    by_cases hminus : c = '-'
    · simp [startsNumber, hminus]
    · cases hdigit : c.isDigit with
      | true => simp [startsNumber, hdigit]
      | false =>
          rw [scanNumber_of_ne hminus, scanUnsigned, scanWhole, scanDigits,
            if_neg (by rw [hdigit]; decide)] at h
          cases h

/-- What begins a number is no other character. -/
theorem ne_of_startsNumber {c other : Char} (hc : startsNumber c = true)
    (hother : startsNumber other = false) : c ≠ other := by
  rintro rfl
  rw [hc] at hother
  cases hother

theorem isGap_of_startsNumber {c : Char} (hc : startsNumber c = true) : isGap c = false := by
  simp only [isGap, Bool.or_eq_false_iff, decide_eq_false_iff_not]
  exact ⟨⟨⟨ne_of_startsNumber hc (by decide), ne_of_startsNumber hc (by decide)⟩,
    ne_of_startsNumber hc (by decide)⟩, ne_of_startsNumber hc (by decide)⟩

/-- A printed value begins with no blank and no closing bracket. -/
theorem head_render {j j' : Json} {depth : Nat} (h : j.ReadsAs depth j') (style : Style)
    (level : Nat) :
    ∃ c t, render style level j = c :: t ∧ isGap c = false ∧ c ≠ ']' := by
  cases j with
  | null => exact ⟨_, _, rfl, by decide, by decide⟩
  | bool b => cases b <;> exact ⟨_, _, rfl, by decide, by decide⟩
  | number n =>
      obtain ⟨m, -, hm⟩ := h
      obtain ⟨numeral, hscan, -⟩ := Number.readsAs_iff.1 hm
      obtain ⟨c, t, ht, hc⟩ := head_of_scanNumber hscan
      exact ⟨c, t, ht, isGap_of_startsNumber hc, ne_of_startsNumber hc (by decide)⟩
  | text s => exact ⟨_, _, rfl, by decide, by decide⟩
  | list items => cases items <;> exact ⟨_, _, rfl, by decide, by decide⟩
  | record members =>
      rcases members with _ | ⟨⟨name, value⟩, members⟩ <;> exact ⟨_, _, rfl, by decide, by decide⟩

theorem skipGap_render {j j' : Json} {depth : Nat} (h : j.ReadsAs depth j') (style : Style)
    (level : Nat) (s : List Char) :
    skipGap (render style level j ++ s) = render style level j ++ s := by
  obtain ⟨c, t, ht, hgap, -⟩ := head_render h style level
  rw [ht, List.cons_append, skipGap_of_head hgap]

/-! ### Scalars -/

variable {fuel depth : Nat} {rest : List Char}

theorem readValue_text (s : String) :
    readValue (fuel + 1) depth (quote s ++ rest) = (.text s, some rest) := by
  have hscan : scanText [] true (s.toList.flatMap quoteChar ++ '"' :: rest) = some (some s, rest) := by
    rw [scanText_quote]
    simp
  rw [readValue.eq_def]
  simp only [quote, List.cons_append, List.append_assoc, List.nil_append, hscan]

/-- A number is found in front of what cannot continue it. -/
theorem readValue_number {n m : Number} (h : n.ReadsAs m) (hrest : EndsNumber rest) :
    readValue (fuel + 1) depth (renderNumber n ++ rest) = (.number m, some rest) := by
  obtain ⟨numeral, hscan, hvalue⟩ := Number.readsAs_iff.1 h
  have happend := scanNumber_append hrest hscan
  obtain ⟨c, t, ht, hc⟩ := head_of_scanNumber hscan
  rw [ht] at happend ⊢
  rw [List.cons_append, List.nil_append] at happend
  rw [List.cons_append]
  -- all other kinds of values are told by a first character that begins no number
  have hne : ∀ other, startsNumber other = false → c ≠ other := fun _ =>
    ne_of_startsNumber hc
  rw [readValue.eq_def]
  dsimp only
  split
  · next heq => exact absurd (List.cons.inj heq).1 (hne _ (by decide))
  · next heq => exact absurd (List.cons.inj heq).1 (hne _ (by decide))
  · next heq => exact absurd (List.cons.inj heq).1 (hne _ (by decide))
  · next heq => exact absurd (List.cons.inj heq).1 (hne _ (by decide))
  · next heq => exact absurd (List.cons.inj heq).1 (hne _ (by decide))
  · next heq => exact absurd (List.cons.inj heq).1 (hne _ (by decide))
  · simp only [happend, hvalue]

/-! ### Lists and records, one part at a time -/

theorem readValue_list {items : List Draft} {s : List Char} (hdepth : depth + 1 ≤ deepest)
    (h : readItems fuel (depth + 1) true (skipGap s) = (items, some rest)) :
    readValue (fuel + 1) depth ('[' :: s) = (.list items, some rest) := by
  rw [readValue.eq_def]
  simp only [h, limitItems, if_pos hdepth]

theorem readValue_record {members : List (Option String × Draft)} {s : List Char}
    (hdepth : depth + 1 ≤ deepest)
    (h : readMembers fuel (depth + 1) true (skipGap s) = (members, some rest)) :
    readValue (fuel + 1) depth ('\x7b' :: s) = (.record members, some rest) := by
  rw [readValue.eq_def]
  simp only [h, limitMembers, if_pos hdepth]

theorem readItems_last {first : Bool} {item : Draft} {s t : List Char}
    (hhead : ∀ u, s ≠ ']' :: u) (hitem : readValue fuel depth s = (item, some t))
    (ht : skipGap t = ']' :: rest) :
    readItems (fuel + 1) depth first s = ([item], some rest) := by
  rw [readItems.eq_def]
  simp only [hitem, Option.map_some, ht]

theorem readItems_more {first : Bool} {item : Draft} {items : List Draft} {s t u : List Char}
    (hhead : ∀ u, s ≠ ']' :: u) (hitem : readValue fuel depth s = (item, some t))
    (ht : skipGap t = ',' :: u)
    (hitems : readItems fuel depth false (skipGap u) = (items, some rest)) :
    readItems (fuel + 1) depth first s = (item :: items, some rest) := by
  rw [readItems.eq_def]
  simp only [hitem, Option.map_some, ht, hitems]

/-- The name of a member is found in front of its colon. -/
theorem scanText_name (name : String) (s : List Char) :
    scanText [] true (name.toList.flatMap quoteChar ++ '"' :: ':' :: s) =
      some (some name, ':' :: s) := by
  rw [scanText_quote]
  simp

theorem readMembers_last {first : Bool} {name : String} {value : Draft} {s t : List Char}
    (hvalue : readValue fuel depth (skipGap s) = (value, some t)) (ht : skipGap t = '\x7d' :: rest) :
    readMembers (fuel + 1) depth first (quote name ++ ':' :: s) =
      ([(some name, value)], some rest) := by
  have hcolon : skipGap (':' :: s) = ':' :: s := skipGap_of_head rfl s
  rw [readMembers.eq_def]
  simp only [quote, List.cons_append, List.append_assoc, List.nil_append, scanText_name, hcolon,
    hvalue, Option.map_some, ht]

theorem readMembers_more {first : Bool} {name : String} {value : Draft}
    {members : List (Option String × Draft)} {s t u : List Char}
    (hvalue : readValue fuel depth (skipGap s) = (value, some t)) (ht : skipGap t = ',' :: u)
    (hmembers : readMembers fuel depth false (skipGap u) = (members, some rest)) :
    readMembers (fuel + 1) depth first (quote name ++ ':' :: s) =
      ((some name, value) :: members, some rest) := by
  have hcolon : skipGap (':' :: s) = ':' :: s := skipGap_of_head rfl s
  rw [readMembers.eq_def]
  simp only [quote, List.cons_append, List.append_assoc, List.nil_append, scanText_name, hcolon,
    hvalue, Option.map_some, ht, hmembers]

/-! ### All values -/

section Style

variable {style : Style}

/-- With this much fuel, values whose text it is enough for are found in front of what cannot
continue a number. -/
def ReadsValues (style : Style) (fuel : Nat) : Prop :=
  ∀ (j j' : Json) (depth : Nat) (rest : List Char), j.ReadsAs depth j' → EndsNumber rest →
    2 * (render style depth j).length ≤ fuel →
      readValue fuel depth (render style depth j ++ rest) = (j'.draft, some rest)

/-- With this much fuel, the items of a list are found in front of its closing bracket. -/
def ReadsItems (style : Style) (fuel : Nat) : Prop :=
  ∀ (item item' : Json) (items items' : List Json) (first : Bool) (depth : Nat)
    (blanks rest : List Char),
    item.ReadsAs depth item' → ItemsReadAs depth items items' → (∀ c ∈ blanks, isGap c = true) →
    2 * ((render style depth item).length + (renderItems style depth items).length + 1) ≤ fuel →
      readItems fuel depth first (render style depth item ++
        (renderItems style depth items ++ (blanks ++ ']' :: rest))) =
        (item'.draft :: drafts items', some rest)

/-- With this much fuel, the members of a record are found in front of its closing bracket. -/
def ReadsMembers (style : Style) (fuel : Nat) : Prop :=
  ∀ (name : String) (value value' : Json) (members members' : List (String × Json)) (first : Bool)
    (depth : Nat) (blanks rest : List Char),
    value.ReadsAs depth value' → MembersReadAs depth members members' →
    (∀ c ∈ blanks, isGap c = true) →
    2 * ((render style depth value).length + (renderMembers style depth members).length + 1) ≤ fuel →
      readMembers fuel depth first (quote name ++ ':' :: (style.space ++
        (render style depth value ++
          (renderMembers style depth members ++ (blanks ++ '\x7d' :: rest))))) =
        ((some name, value'.draft) :: memberDrafts members', some rest)

theorem readsValues_succ (hstyle : style.Blank) (hitems : ReadsItems style fuel)
    (hmembers : ReadsMembers style fuel) : ReadsValues style (fuel + 1) := by
  intro j j' depth rest hj hrest hfuel
  cases j with
  | null =>
      cases hj
      rfl
  | bool b =>
      cases hj
      cases b <;> rfl
  | number n =>
      obtain ⟨m, rfl, hm⟩ := hj
      exact readValue_number hm hrest
  | text s =>
      cases hj
      exact readValue_text s
  | list items =>
      obtain ⟨hdepth, items', rfl, hitems'⟩ := hj
      cases items with
      | nil =>
          -- the closing bracket takes one more unit of fuel
          simp only [render, List.length_cons, List.length_nil] at hfuel
          obtain ⟨fuel, rfl⟩ : ∃ f, fuel = f + 1 := ⟨fuel - 1, by omega⟩
          cases hitems'
          exact readValue_list hdepth rfl
      | cons item items =>
          obtain ⟨item', rest', rfl, hitem, hrest'⟩ := hitems'
          simp only [render, List.length_append, List.length_cons] at hfuel
          simp only [render, List.cons_append, List.append_assoc]
          refine readValue_list hdepth ?_
          rw [skipGap_append (hstyle.line _), skipGap_render hitem]
          exact hitems item item' items rest' true (depth + 1) (style.line depth) rest hitem hrest'
            (hstyle.line depth) (by omega)
  | record members =>
      obtain ⟨hdepth, members', rfl, hmembers'⟩ := hj
      rcases members with _ | ⟨⟨name, value⟩, members⟩
      · simp only [render, List.length_cons, List.length_nil] at hfuel
        obtain ⟨fuel, rfl⟩ : ∃ f, fuel = f + 1 := ⟨fuel - 1, by omega⟩
        cases hmembers'
        exact readValue_record hdepth rfl
      · obtain ⟨value', rest', rfl, hvalue, hrest'⟩ := hmembers'
        simp only [render, List.length_append, List.length_cons] at hfuel
        simp only [render, List.cons_append, List.append_assoc]
        refine readValue_record hdepth ?_
        rw [skipGap_append (hstyle.line _)]
        exact hmembers name value value' members rest' true (depth + 1) (style.line depth) rest
          hvalue hrest' (hstyle.line depth) (by omega)

theorem readsItems_succ (hstyle : style.Blank) (hvalues : ReadsValues style fuel)
    (hitems : ReadsItems style fuel) : ReadsItems style (fuel + 1) := by
  intro item item' items items' first depth blanks rest hitem hrest hblanks hfuel
  obtain ⟨c, t, ht, -, hne⟩ := head_render hitem style depth
  -- a value never begins with the bracket, and so the reader does not stop in front of it
  have hhead : ∀ s u, render style depth item ++ s ≠ ']' :: u := by
    intro s u heq
    rw [ht] at heq
    exact hne (List.cons.inj heq).1
  cases items with
  | nil =>
      have hclose : EndsNumber (blanks ++ ']' :: rest) :=
        endsNumber_append hblanks (endsNumber_cons (by decide) rest)
      cases hrest
      refine readItems_last (hhead _) (hvalues item item' depth _ hitem hclose (by omega)) ?_
      rw [renderItems, List.nil_append, skipGap_append hblanks, skipGap_of_head rfl]
  | cons next items =>
      obtain ⟨next', rest', rfl, hnext, hrest'⟩ := hrest
      simp only [renderItems, List.length_append, List.length_cons] at hfuel
      simp only [renderItems, List.cons_append, List.append_assoc]
      refine readItems_more (hhead _)
        (hvalues item item' depth _ hitem (endsNumber_cons (by decide) _) (by omega))
        (skipGap_of_head rfl _) ?_
      rw [skipGap_append (hstyle.line depth), skipGap_render hnext]
      exact hitems next next' items rest' false depth blanks rest hnext hrest' hblanks (by omega)

theorem readsMembers_succ (hstyle : style.Blank) (hvalues : ReadsValues style fuel)
    (hmembers : ReadsMembers style fuel) : ReadsMembers style (fuel + 1) := by
  intro name value value' members members' first depth blanks rest hvalue hrest hblanks hfuel
  have hspace : ∀ s, skipGap (style.space ++ (render style depth value ++ s)) =
      render style depth value ++ s := by
    intro s
    rw [skipGap_append hstyle.space, skipGap_render hvalue]
  rcases members with _ | ⟨⟨next, following⟩, members⟩
  · have hclose : EndsNumber (blanks ++ '\x7d' :: rest) :=
      endsNumber_append hblanks (endsNumber_cons (by decide) rest)
    have hread := hvalues value value' depth _ hvalue hclose (by omega)
    rw [← hspace] at hread
    cases hrest
    refine readMembers_last hread ?_
    rw [skipGap_append hblanks, skipGap_of_head rfl]
  · obtain ⟨following', rest', rfl, hfollowing, hrest'⟩ := hrest
    simp only [renderMembers, List.length_append, List.length_cons] at hfuel
    simp only [renderMembers, List.cons_append, List.append_assoc]
    have hread := fun rest => hvalues value value' depth (',' :: rest) hvalue
      (endsNumber_cons (by decide) _) (by omega)
    refine readMembers_more (by rw [hspace, hread]) (skipGap_of_head rfl _) ?_
    rw [skipGap_append (hstyle.line depth)]
    exact hmembers next following following' members rest' false depth blanks rest hfollowing hrest'
      hblanks (by omega)

/-- **Whatever the fuel is enough for is found.**  The induction is on the fuel, along the recursion
of the reader. -/
theorem reads (hstyle : style.Blank) (fuel : Nat) :
    ReadsValues style fuel ∧ ReadsItems style fuel ∧ ReadsMembers style fuel := by
  induction fuel with
  | zero =>
      refine ⟨?_, ?_, ?_⟩
      · -- no text is empty, and so fuel is needed for each
        intro j j' depth rest hj _ hfuel
        obtain ⟨c, t, ht, -⟩ := head_render hj style depth
        simp [ht] at hfuel
      · intro item item' items items' first depth blanks rest _ _ _ hfuel
        omega
      · intro name value value' members members' first depth blanks rest _ _ _ hfuel
        omega
  | succ fuel ih =>
      obtain ⟨hvalues, hitems, hmembers⟩ := ih
      exact ⟨readsValues_succ hstyle hitems hmembers, readsItems_succ hstyle hvalues hitems,
        readsMembers_succ hstyle hvalues hmembers⟩

/-- **What is found in the text of a value**, whatever blanks stand between its parts. -/
theorem ofText_render_as (hstyle : style.Blank) {j j' : Json} (h : j.ReadsAs 0 j') :
    Document.ofText (String.ofList (render style 0 j)) = ⟨j'.draft, false⟩ := by
  have hread : readValue (2 * (render style 0 j).length + 1) 0 (render style 0 j) =
      (j'.draft, some []) := by
    have hfront := (reads hstyle (2 * (render style 0 j).length + 1)).1 j j' 0 [] h
      (fun c hc => by cases hc) (by omega)
    rwa [List.append_nil] at hfront
  have hskip : skipGap (render style 0 j) = render style 0 j := by
    have hfront := skipGap_render h style 0 []
    rwa [List.append_nil] at hfront
  simp only [Document.ofText, String.toList_ofList, hskip, hread]
  rfl

/-- **A printed value reads back**, whatever blanks stand between its parts. -/
theorem ofText_render (hstyle : style.Blank) {j : Json} (h : j.Readable 0) :
    Document.ofText (String.ofList (render style 0 j)) = ⟨j.draft, false⟩ :=
  ofText_render_as hstyle h.readsAs

end Style

end QueryBuilder.Json
