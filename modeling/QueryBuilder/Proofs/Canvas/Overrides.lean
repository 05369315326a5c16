/-
**Settings are loaded exactly.**

A settings object names some of the fifteen settings, in any order, and gives a number or `null` for
each.  Every other setting has its default.  The object is accepted if the settings that it is
filled up to are in order, and it is refused for the first of their faults otherwise: a setting that
is not finite comes before one that is not positive, this one before zooms that are out of order, and
within a kind the settings are gone through as they are declared.

Fifteen names go through reading, defaults, checks and writing.  That none of them is taken for
another one is the content of this module; it rests on the names being different, and on lists that
are parts of the list of all settings, in its order.

Main definitions:

* `QueryBuilder.Overrides`, `QueryBuilder.Overrides.toJson` — a settings object, and its value;
* `QueryBuilder.Overrides.filled` — the settings that it is filled up to;
* `QueryBuilder.Settings.InOrder`, `QueryBuilder.Settings.Blames` — settings without a fault, and the
  first fault of others.

Main results:

* `QueryBuilder.Settings.fault?_iff_inOrder`, `QueryBuilder.Settings.fault?_eq_some_iff` — what the
  check says;
* `QueryBuilder.Overrides.decode_toJson` — no setting is taken for another one;
* `QueryBuilder.Settings.load_exact` — **settings are loaded exactly**.
-/

import QueryBuilder.Proofs.Canvas.Settings
import QueryBuilder.Proofs.Decimal.Doubles
import QueryBuilder.Proofs.Graph.Suggestion
import QueryBuilder.Proofs.Json.Decoding
import QueryBuilder.Proofs.Json.Values

set_option autoImplicit false

namespace QueryBuilder

/-! ### Settings in order -/

namespace Settings

/-- Settings without a fault: all finite, sizes and factors positive, and the smallest zoom below
both of the largest ones, or equal to them. -/
structure InOrder (c : Settings Float) : Prop where
  finite : ∀ s, Decimal.isFinite (c s) = true
  positive : ∀ s ∈ Setting.positive, 0 < c s
  ordered : ∀ s ∈ Setting.zoomCeilings, c .minZoom ≤ c s

/-- The first fault of settings: of the worst kind that there is, the first setting in the order of
declaration. -/
inductive Blames (c : Settings Float) : SettingsError Float → Prop where
  | notFinite {s : Setting} (first : IsFirst (fun s => Decimal.isFinite (c s) = false) Setting.all s) :
      Blames c (.notFinite s)
  | notPositive {s : Setting} (finite : ∀ s, Decimal.isFinite (c s) = true)
      (first : IsFirst (fun s => s ∈ Setting.positive ∧ ¬ 0 < c s) Setting.all s) :
      Blames c (.notPositive s)
  | zoomBounds {s : Setting} (finite : ∀ s, Decimal.isFinite (c s) = true)
      (positive : ∀ s ∈ Setting.positive, 0 < c s)
      (first : IsFirst (fun s => s ∈ Setting.zoomCeilings ∧ c s < c .minZoom) Setting.all s) :
      Blames c (.zoomBounds (c .minZoom) (c s))

variable {c : Settings Float}

/-- A finite setting is positive if it is not zero or below. -/
theorem le_zero_iff {s : Setting} (h : Decimal.isFinite (c s) = true) :
    Coordinate.le (c s) (Coordinate.whole 0) = true ↔ ¬ 0 < c s := by
  have hle : Coordinate.le (c s) (Coordinate.whole 0) = true ↔ c s ≤ 0 := decide_eq_true_iff
  obtain ⟨kind, exponent, mantissa, hrank, -⟩ := Decimal.rank_of_isFinite h
  have hzero : Decimal.rank? 0 = some (.of 0 0 0) := by decide +kernel
  rw [hle]
  exact ⟨Decimal.float_not_lt_of_le, Decimal.float_le_of_not_lt hzero hrank⟩

theorem lt_minZoom_iff {s : Setting} :
    Coordinate.lt (c s) (c .minZoom) = true ↔ c s < c .minZoom :=
  decide_eq_true_iff

/-- The settings of a kind are gone through in the order of declaration. -/
theorem find?_kind {kind : List Setting} (hkind : kind = Setting.all.filter fun s => s ∈ kind)
    {p : Setting → Bool} {s : Setting} :
    kind.find? p = some s ↔ IsFirst (fun s => s ∈ kind ∧ p s = true) Setting.all s := by
  conv_lhs => rw [hkind, List.find?_filter]
  rw [find?_eq_some_iff_isFirst]
  simp only [decide_eq_true_eq]

/-! ### Searches for faults -/

theorem find?_notFinite {s : Setting} :
    (Setting.all.find? fun s => !Coordinate.isFinite (c s)) = some s ↔
      IsFirst (fun s => Decimal.isFinite (c s) = false) Setting.all s := by
  rw [find?_eq_some_iff_isFirst]
  simp only [Bool.not_eq_eq_eq_not, Bool.not_true]
  rfl

theorem find?_notFinite_eq_none :
    (Setting.all.find? fun s => !Coordinate.isFinite (c s)) = none ↔
      ∀ s, Decimal.isFinite (c s) = true := by
  simp only [List.find?_eq_none, Bool.not_eq_eq_eq_not, Bool.not_true, Bool.not_eq_false]
  exact ⟨fun h s => h s s.mem_all, fun h s _ => h s⟩

theorem find?_notPositive (h : ∀ s, Decimal.isFinite (c s) = true) {s : Setting} :
    (Setting.positive.find? fun s => Coordinate.le (c s) (Coordinate.whole 0)) = some s ↔
      IsFirst (fun s => s ∈ Setting.positive ∧ ¬ 0 < c s) Setting.all s := by
  rw [find?_kind (by decide)]
  simp only [le_zero_iff (h _)]

theorem find?_notPositive_eq_none (h : ∀ s, Decimal.isFinite (c s) = true) :
    (Setting.positive.find? fun s => Coordinate.le (c s) (Coordinate.whole 0)) = none ↔
      ∀ s ∈ Setting.positive, 0 < c s := by
  simp only [List.find?_eq_none, le_zero_iff (h _), not_not]

theorem find?_lowCeiling {s : Setting} :
    (Setting.zoomCeilings.find? fun s => Coordinate.lt (c s) (c .minZoom)) = some s ↔
      IsFirst (fun s => s ∈ Setting.zoomCeilings ∧ c s < c .minZoom) Setting.all s := by
  rw [find?_kind (by decide)]
  simp only [lt_minZoom_iff]

theorem find?_lowCeiling_eq_none (h : ∀ s, Decimal.isFinite (c s) = true) :
    (Setting.zoomCeilings.find? fun s => Coordinate.lt (c s) (c .minZoom)) = none ↔
      ∀ s ∈ Setting.zoomCeilings, c .minZoom ≤ c s := by
  simp only [List.find?_eq_none, lt_minZoom_iff]
  obtain ⟨_, _, _, hminimum, -⟩ := Decimal.rank_of_isFinite (h .minZoom)
  refine forall₂_congr fun s _ => ?_
  obtain ⟨_, _, _, hrank, -⟩ := Decimal.rank_of_isFinite (h s)
  exact ⟨Decimal.float_le_of_not_lt hrank hminimum, Decimal.float_not_lt_of_le⟩

/-- **The check finds no fault exactly if settings are in order.** -/
theorem fault?_iff_inOrder : c.fault? = none ↔ c.InOrder := by
  simp only [fault?, Option.or_eq_none_iff, Option.map_eq_none_iff, find?_notFinite_eq_none]
  constructor
  · rintro ⟨hfinite, hpositive, hordered⟩
    exact ⟨hfinite, (find?_notPositive_eq_none hfinite).1 hpositive,
      (find?_lowCeiling_eq_none hfinite).1 hordered⟩
  · intro h
    exact ⟨h.finite, (find?_notPositive_eq_none h.finite).2 h.positive,
      (find?_lowCeiling_eq_none h.finite).2 h.ordered⟩

/-- **The check reports the first fault.** -/
theorem fault?_eq_some_iff {e : SettingsError Float} : c.fault? = some e ↔ c.Blames e := by
  simp only [fault?, Option.or_eq_some_iff, Option.map_eq_some_iff, Option.map_eq_none_iff,
    find?_notFinite, find?_notFinite_eq_none]
  constructor
  · rintro (⟨s, hfirst, rfl⟩ | ⟨hfinite, ⟨s, hfirst, rfl⟩ | ⟨hpositive, s, hfirst, rfl⟩⟩)
    · exact .notFinite hfirst
    · exact .notPositive hfinite ((find?_notPositive hfinite).1 hfirst)
    · exact .zoomBounds hfinite ((find?_notPositive_eq_none hfinite).1 hpositive)
        (find?_lowCeiling.1 hfirst)
  · intro h
    cases h with
    | notFinite hfirst => exact .inl ⟨_, hfirst, rfl⟩
    | notPositive hfinite hfirst =>
        exact .inr ⟨hfinite, .inl ⟨_, (find?_notPositive hfinite).2 hfirst, rfl⟩⟩
    | zoomBounds hfinite hpositive hfirst =>
        exact .inr ⟨hfinite, .inr ⟨(find?_notPositive_eq_none hfinite).2 hpositive, _,
          find?_lowCeiling.2 hfirst, rfl⟩⟩

end Settings

/-! ### Settings objects -/

/-- The names of settings are different. -/
theorem Setting.name_injective : Function.Injective Setting.name := by
  intro s t h
  have hnodup : (Setting.all.map Setting.name).Nodup := by decide
  exact List.inj_on_of_nodup_map hnodup s.mem_all t.mem_all h

/-- A number as a double. -/
def Number.toFloat : Number → Float
  | .int n => Float.ofInt n
  | .float x => x

/-- A settings object: some of the settings in any order, each with a number or with `null`. -/
structure Overrides where
  entries : List (Setting × Option Number)
  nodup : (entries.map (·.1)).Nodup

namespace Overrides

/-- The settings object as a value. -/
def toJson (o : Overrides) : Json :=
  .record (o.entries.map fun e => (e.1.name, .optional .number e.2))

/-- The number that is given for a setting, if there is one. -/
def given (o : Overrides) (s : Setting) : Option Float :=
  (o.entries.lookup s).join.map Number.toFloat

/-- The settings with each given one as it is given, and each other one at its default. -/
def filled (o : Overrides) : Settings Float :=
  fun s => (o.given s).getD (Settings.standard s)

variable (o : Overrides)

/-- A setting is looked up by its name. -/
theorem lookup_name (entries : List (Setting × Option Number)) (s : Setting) :
    (entries.map fun e => (e.1.name, Json.optional Json.number e.2)).lookup s.name =
      (entries.lookup s).map (Json.optional Json.number) := by
  induction entries with
  | nil => rfl
  | cons e entries ih =>
      obtain ⟨other, value⟩ := e
      rw [List.map_cons, List.lookup_cons, List.lookup_cons]
      by_cases h : s = other
      · rw [h, beq_self_eq_true, beq_self_eq_true]
        rfl
      · rw [beq_false_of_ne h, beq_false_of_ne (mt (fun hname => Setting.name_injective hname) h)]
        exact ih

/-- A number or `null` is read as a double, if it is a number. -/
theorem nullable_double (value : Option Number) :
    Json.nullable Json.double (Json.optional Json.number value).draft =
      .ok (value.map Number.toFloat) := by
  cases value with
  | none => rfl
  | some n => cases n <;> rfl

/-- **No setting is taken for another one**: what is read of a settings object is what it gives. -/
theorem decode_toJson : Settings.overridesOfDraft o.toJson.draft = .ok o.given := by
  have hwanted : ∀ m ∈ o.entries.map (fun e => (e.1.name, Json.optional Json.number e.2)),
      m.1 ∈ Setting.all.map Setting.name := by
    intro m hm
    obtain ⟨e, -, rfl⟩ := List.mem_map.1 hm
    exact List.mem_map_of_mem e.1.mem_all
  have hnodup : ((o.entries.map fun e => (e.1.name, Json.optional Json.number e.2)).map
      (·.1)).Nodup := by
    have hnames : (o.entries.map fun e => (e.1.name, Json.optional Json.number e.2)).map (·.1) =
        (o.entries.map (·.1)).map Setting.name := by
      rw [List.map_map, List.map_map]
      rfl
    rw [hnames]
    exact o.nodup.map Setting.name_injective
  rw [Settings.overridesOfDraft, toJson, Json.recordOf_members hwanted hnodup]
  refine Json.Reading.toExcept_eq_ok (Json.Reading.family_eq_done fun s => ?_)
  have hlookup := lookup_name o.entries s
  rw [given]
  cases hentry : o.entries.lookup s with
  | none =>
      rw [hentry] at hlookup
      rw [Json.Fields.optional, Json.Fields.read?_ofMembers_none hlookup]
      rfl
  | some value =>
      rw [hentry] at hlookup
      rw [Json.Fields.optional, Json.Fields.read?_of_lookup hlookup (nullable_double value)]
      rfl

/-- A setting is looked up where it stands. -/
theorem lookup_eq_some_iff_mem {s : Setting} {value : Option Number} :
    o.entries.lookup s = some value ↔ (s, value) ∈ o.entries := by
  rw [List.lookup_eq_some_iff]
  constructor
  · rintro ⟨before, after, hentries, -⟩
    rw [hentries]
    exact List.mem_append_right _ List.mem_cons_self
  · intro h
    obtain ⟨before, after, hentries⟩ := List.append_of_mem h
    refine ⟨before, after, hentries, fun e he => ?_⟩
    have hnodup := o.nodup
    rw [hentries, List.map_append, List.map_cons] at hnodup
    have hdisjoint := (List.nodup_append.1 hnodup).2.2
    exact bne_iff_ne.2 (hdisjoint _ (List.mem_map_of_mem he) _ List.mem_cons_self).symm

/-- A setting with a number has this number. -/
theorem filled_of_mem {s : Setting} {n : Number} (h : (s, some n) ∈ o.entries) :
    o.filled s = n.toFloat := by
  rw [filled, given, o.lookup_eq_some_iff_mem.2 h]
  rfl

/-- A setting without a number has its default. -/
theorem filled_of_not_mem {s : Setting} (h : ∀ n, (s, some n) ∉ o.entries) :
    o.filled s = Settings.standard s := by
  have hgiven : o.given s = none := by
    rw [given]
    cases hentry : o.entries.lookup s with
    | none => rfl
    | some value =>
        cases value with
        | none => rfl
        | some n => exact absurd (o.lookup_eq_some_iff_mem.1 hentry) (h n)
  rw [filled, hgiven, Option.getD_none]

/-! ### Loading -/

theorem override_of_none (h : o.filled.fault? = none) :
    Settings.override o.given = .ok o.filled := by
  unfold filled at h ⊢
  simp only [Settings.override, h]

theorem override_of_some {e : SettingsError Float} (h : o.filled.fault? = some e) :
    Settings.override o.given = .error e := by
  unfold filled at h
  simp only [Settings.override, h]

/-- **A settings object is accepted exactly if what it is filled up to is in order**, and this is the
result. -/
theorem loadValue_eq_ok {c : Settings Float} :
    Json.loadValue Settings.overridesOfDraft Settings.override o.toJson = .ok c ↔
      c = o.filled ∧ o.filled.InOrder := by
  rw [Json.loadValue, decode_toJson, ← Settings.fault?_iff_inOrder]
  dsimp only
  cases hfault : o.filled.fault? with
  | none =>
      rw [o.override_of_none hfault]
      constructor
      · intro h
        cases h
        exact ⟨rfl, rfl⟩
      · rintro ⟨rfl, -⟩
        rfl
  | some e =>
      rw [o.override_of_some hfault]
      constructor
      · intro h
        cases h
      · rintro ⟨-, h⟩
        cases h

/-- **Otherwise it is refused for the first fault.** -/
theorem loadValue_eq_error {e : Json.LoadError (SettingsError Float)} :
    Json.loadValue Settings.overridesOfDraft Settings.override o.toJson = .error e ↔
      ∃ reason, e = .refused reason ∧ o.filled.Blames reason := by
  simp only [← Settings.fault?_eq_some_iff]
  rw [Json.loadValue, decode_toJson]
  dsimp only
  cases hfault : o.filled.fault? with
  | none =>
      rw [o.override_of_none hfault]
      constructor
      · intro h
        cases h
      · rintro ⟨_, -, h⟩
        cases h
  | some reason =>
      rw [o.override_of_some hfault]
      constructor
      · intro h
        cases h
        exact ⟨reason, rfl, rfl⟩
      · rintro ⟨_, rfl, h⟩
        cases h
        rfl

/-- A text of a settings object is loaded like its value. -/
theorem loadText_eq {text : String} (h : Json.Document.ofText text = ⟨o.toJson.draft, false⟩) :
    Json.loadText Settings.overridesOfDraft Settings.override text =
      Json.loadValue Settings.overridesOfDraft Settings.override o.toJson := by
  rw [Json.loadText, h, Json.loadValue]
  simp only [decode_toJson]
  cases Settings.override o.given <;> rfl

/-- Settings as the settings object that is written for them. -/
def ofSettings (c : Settings Float) : Overrides where
  entries := Setting.all.map fun s => (s, some (.float (c s)))
  nodup := by
    rw [List.map_map]
    exact (by decide : (Setting.all.map id).Nodup)

theorem toJson_ofSettings (c : Settings Float) : (ofSettings c).toJson = c.toJson := rfl

theorem filled_ofSettings (c : Settings Float) : (ofSettings c).filled = c := by
  funext s
  have hmem : (s, some (.float (c s))) ∈ (ofSettings c).entries :=
    List.mem_map_of_mem s.mem_all
  exact filled_of_mem _ hmem

end Overrides

namespace Settings

/-- The value of settings is read back from its text if the settings are. -/
theorem readable_toJson {c : Settings Float} (h : ∀ s, (Number.float (c s)).ReadsBack) :
    c.toJson.Readable 0 := by
  refine ⟨by decide, Json.membersReadable_iff.2 fun m hm => ?_⟩
  obtain ⟨s, -, rfl⟩ := List.mem_map.1 hm
  exact h s

/-- Settings in order come back from the text that is written for them. -/
theorem loadText_render {c : Settings Float} (hc : c.InOrder)
    (hreads : ∀ s, (Number.float (c s)).ReadsBack) {style : Json.Style} (hstyle : style.Blank) :
    Json.loadText overridesOfDraft override (String.ofList (c.toJson.render style 0)) = .ok c := by
  have htext := Json.ofText_render hstyle (readable_toJson hreads)
  rw [← Overrides.toJson_ofSettings] at htext
  refine ((Overrides.ofSettings c).loadText_eq htext).trans ?_
  rw [Overrides.loadValue_eq_ok, Overrides.filled_ofSettings]
  exact ⟨rfl, hc⟩

/-- **Settings are loaded exactly.**  Take any settings object, and any text of it.  Both are loaded
alike.  They are accepted exactly if the settings are in order that the object is filled up to, and
then these are the result: each setting with a number has this number, and each other one its
default.  Otherwise they are refused for the first fault of these settings, which names the
offending setting or the two zooms.  Settings in order, which are those that are accepted, come back
from their value, and from their text too if the doubles in it that are finite read back. -/
theorem load_exact (o : Overrides) :
    let answer := Json.loadValue overridesOfDraft override o.toJson
    (∀ text, Json.Document.ofText text = ⟨o.toJson.draft, false⟩ →
      Json.loadText overridesOfDraft override text = answer) ∧
    (∀ c, answer = .ok c ↔ c = o.filled ∧ o.filled.InOrder) ∧
    (∀ e, answer = .error e ↔ ∃ reason, e = .refused reason ∧ o.filled.Blames reason) ∧
    (∀ s n, (s, some n) ∈ o.entries → o.filled s = n.toFloat) ∧
    (∀ s, (∀ n, (s, some n) ∉ o.entries) → o.filled s = standard s) ∧
    ∀ c : Settings Float, c.InOrder →
      Json.loadValue overridesOfDraft override c.toJson = .ok c ∧
      ((∀ s, Decimal.isFinite (c s) = true → (Number.float (c s)).ReadsBack) →
        Json.loadText overridesOfDraft override c.toJson.compact = .ok c ∧
        Json.loadText overridesOfDraft override c.toJson.pretty = .ok c) := by
  refine ⟨fun _ => o.loadText_eq, fun _ => o.loadValue_eq_ok, fun _ => o.loadValue_eq_error,
    fun _ _ => o.filled_of_mem, fun _ => o.filled_of_not_mem, fun c horder => ⟨?_, fun hreads => ?_⟩⟩
  · rw [← Overrides.toJson_ofSettings, Overrides.loadValue_eq_ok, Overrides.filled_ofSettings]
    exact ⟨rfl, horder⟩
  · have hreads' : ∀ s, (Number.float (c s)).ReadsBack := fun s => hreads s (horder.finite s)
    exact ⟨loadText_render horder hreads' Json.Style.blank_compact,
      loadText_render horder hreads' Json.Style.blank_indented⟩

/-- A settings object out of order of declaration, with a whole number and a `null`, is accepted and
comes back from its text.  Of another one, a step that is not positive is reported before the
smallest zoom, which exceeds the largest one. -/
theorem load_exact_sample :
    let o : Overrides := ⟨[(.maxZoom, none), (.gridPitch, some (.int 10)),
      (.minZoom, some (.float 0.25))], by decide⟩
    let faulty : Overrides := ⟨[(.minZoom, some (.int 2)), (.zoomStep, some (.int 0))], by decide⟩
    o.filled .gridPitch = 10 ∧ o.filled .maxZoom = standard .maxZoom ∧
      Json.loadText overridesOfDraft override o.toJson.compact = .ok o.filled ∧
      Json.loadText overridesOfDraft override o.filled.toJson.pretty = .ok o.filled ∧
      Json.loadValue overridesOfDraft override faulty.toJson =
        .error (.refused (.notPositive .zoomStep)) := by
  intro o faulty
  have horder : o.filled.InOrder := fault?_iff_inOrder.1 (by decide +kernel)
  have hfault : faulty.filled.Blames (.notPositive .zoomStep) :=
    fault?_eq_some_iff.1 (by decide +kernel)
  have hentries : o.toJson.Readable 0 := by
    refine ⟨by decide, trivial, ?_, ?_, trivial⟩
    · exact (by decide +kernel : (Number.int 10).ReadsBack)
    · exact (by decide +kernel : (Number.float 0.25).ReadsBack)
  have hreads : ∀ s, Decimal.isFinite (o.filled s) = true →
      (Number.float (o.filled s)).ReadsBack := by
    intro s _
    cases s <;> decide +kernel
  obtain ⟨htext, haccepted, -, hgiven, hdefault, hback⟩ := load_exact o
  obtain ⟨-, -, hrefused, -⟩ := load_exact faulty
  have hnull : ∀ n, (Setting.maxZoom, some n) ∉ o.entries := by
    intro n hn
    simp [o] at hn
  have hcompact := htext o.toJson.compact (Json.ofText_render Json.Style.blank_compact hentries)
  exact ⟨hgiven .gridPitch (.int 10) (by decide), hdefault _ hnull,
    hcompact.trans ((haccepted _).2 ⟨rfl, horder⟩), ((hback _ horder).2 hreads).2,
    (hrefused _).2 ⟨_, rfl, hfault⟩⟩

end Settings

end QueryBuilder
