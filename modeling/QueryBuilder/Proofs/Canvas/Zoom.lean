/-
**The range of the zoom.**

The zoom of a view is written in three ways.  Setting it and stepping it keep it between the
smallest and the largest zoom, whatever double is asked for, an undefined one too.  The start and a
reset make it one.  Fitting keeps it between the smallest zoom and a ceiling of its own.

The check of settings asks the smallest zoom not to exceed either ceiling, and nothing else.  So the
zoom stays in its range, whatever happens to the view, exactly if one is in the range and the
ceiling of fitting is not above it.  Settings that pass the check need not be like this.

Main definitions:

* `QueryBuilder.View.InRange` — the zoom is between the smallest and the largest one;
* `QueryBuilder.Settings.Writes` — the zooms that can be written.

Main results:

* `QueryBuilder.clampZoom_between` — clamping keeps any double in a range;
* `QueryBuilder.Stage.writes_step`, `QueryBuilder.Stage.writes_run` — one event, and a whole run,
  leave a zoom that can be written;
* `QueryBuilder.View.zoom_fit_inf` — fitting reaches its ceiling;
* `QueryBuilder.Stage.zoom_in_range_iff` — **the zoom stays in range exactly if** the settings do
  what the check does not ask for;
* `QueryBuilder.Stage.zoom_out_of_range` — **settings pass the check, and the zoom leaves its
  range**.
-/

import QueryBuilder.Proofs.Canvas.Gestures
import QueryBuilder.Proofs.Canvas.Settings
import QueryBuilder.Proofs.Decimal.Doubles

set_option autoImplicit false

namespace QueryBuilder

open Decimal

/-! ### Clamping -/

/-- **Clamping keeps any double in a range that is one.** -/
theorem clampZoom_between {min max : Float} (h : min ≤ max) (zoom : Float) :
    min ≤ clampZoom zoom min max ∧ clampZoom zoom min max ≤ max := by
  obtain ⟨r, hr⟩ := exists_rank_of_le_left h
  obtain ⟨r', hr'⟩ := exists_rank_of_le_right h
  obtain ⟨hmin, hmin'⟩ := self_of_rank hr
  obtain ⟨hmax, hmax'⟩ := self_of_rank hr'
  have hlower : min ≤ Coordinate.largerFloat zoom min := by
    by_cases hzoom : min < zoom
    · simpa [Coordinate.largerFloat, hzoom] using float_le_of_lt hzoom
    · simpa [Coordinate.largerFloat, hzoom, hmin'] using hmin
  have hclamp : clampZoom zoom min max =
      Coordinate.smallerFloat (Coordinate.largerFloat zoom min) max := rfl
  rw [hclamp]
  generalize Coordinate.largerFloat zoom min = larger at hlower
  by_cases hupper : larger < max
  · have hkept : Coordinate.smallerFloat larger max = larger := by
      simp [Coordinate.smallerFloat, hupper]
    rw [hkept]
    exact ⟨hlower, float_le_of_lt hupper⟩
  · have hkept : Coordinate.smallerFloat larger max = max := by
      simp [Coordinate.smallerFloat, hupper, hmax']
    rw [hkept]
    exact ⟨h, hmax⟩

/-- The infinite double is clamped to the upper end of a range of finite ones. -/
theorem clampZoom_inf {min max : Float} (hmin : isFinite min = true)
    (hmax : isFinite max = true) : clampZoom Float.inf min max = max := by
  obtain ⟨_, _, _, hr, -⟩ := rank_of_isFinite hmax
  obtain ⟨-, hmax'⟩ := self_of_rank hr
  have hbelow : ¬ Float.inf < max := float_not_lt_of_lt (lt_inf hmax)
  have hlarger : Coordinate.largerFloat Float.inf min = Float.inf := by
    simp [Coordinate.largerFloat, lt_inf hmin]
  have hclamp : clampZoom Float.inf min max =
      Coordinate.smallerFloat (Coordinate.largerFloat Float.inf min) max := rfl
  rw [hclamp, hlarger]
  simp [Coordinate.smallerFloat, hbelow, hmax']

/-! ### Settings -/

namespace Settings

variable {c : Settings Float} {s : Setting}

/-- The smallest zoom is not above the largest ones. -/
theorem minZoom_le_ceiling (h : c.fault? = none) (hs : s ∈ Setting.zoomCeilings) :
    c .minZoom ≤ c s := by
  obtain ⟨hfinite, -, hceilings⟩ := fault?_eq_none_iff.1 h
  obtain ⟨_, _, _, hmin, -⟩ := rank_of_isFinite (hfinite .minZoom)
  obtain ⟨_, _, _, hceiling, -⟩ := rank_of_isFinite (hfinite s)
  exact float_le_of_not_lt hceiling hmin (of_decide_eq_false (hceilings s hs))

/-- Sizes and factors have a positive sign and a mantissa. -/
theorem unpack_value (h : c.fault? = none) (hs : s ∈ Setting.positive) :
    ∃ m e hm, (c s).toModel.unpack = .finite .positive m e hm := by
  obtain ⟨hfinite, hpositive, -⟩ := fault?_eq_none_iff.1 h
  exact unpack_of_positive (hfinite s) (of_decide_eq_false (hpositive s hs))

/-- The zooms that can be written: that of the start, those that are set, and those that fit. -/
inductive Writes (c : Settings Float) : Float → Prop where
  | start : c.Writes 1
  | set {zoom : Float} (hmin : c .minZoom ≤ zoom) (hmax : zoom ≤ c .maxZoom) : c.Writes zoom
  | fit {zoom : Float} (hmin : c .minZoom ≤ zoom) (hmax : zoom ≤ c .fitMaxZoom) : c.Writes zoom

end Settings

/-! ### Views -/

namespace View

variable (v : View Float)

/-- The zoom is between the smallest and the largest one. -/
def InRange : Prop :=
  v.settings .minZoom ≤ v.zoom ∧ v.zoom ≤ v.settings .maxZoom

instance : Decidable v.InRange :=
  inferInstanceAs (Decidable (_ ∧ _))

variable {v}

/-- **Setting the zoom keeps it in its range**, whatever is asked for. -/
theorem inRange_setZoom (h : v.settings.fault? = none) (zoom : Float) :
    (v.setZoom zoom).InRange :=
  clampZoom_between (Settings.minZoom_le_ceiling h (by decide)) (roundZoom zoom)

/-- Fitting keeps the zoom below its own ceiling, or leaves it as it is. -/
theorem zoom_fit (h : v.settings.fault? = none) (tables : List (PlacedTable Float))
    (width height : Float) :
    (v.fit tables width height).zoom = v.zoom ∨
      v.settings .minZoom ≤ (v.fit tables width height).zoom ∧
        (v.fit tables width height).zoom ≤ v.settings .fitMaxZoom := by
  unfold fit
  split
  · exact .inr (clampZoom_between (Settings.minZoom_le_ceiling h (by decide)) _)
  · exact .inl rfl

/-- **Fitting reaches its ceiling**: a table at the origin is shown as large as fitting allows if
there is no end to the container. -/
theorem zoom_fit_inf (h : v.settings.fault? = none) {t : PlacedTable Float}
    (ht : v.positionOf t = ⟨0, 0⟩) :
    (v.fit [t] Float.inf Float.inf).zoom = v.settings .fitMaxZoom := by
  obtain ⟨hfinite, -, -⟩ := Settings.fault?_eq_none_iff.1 h
  obtain ⟨_, _, _, hwidth⟩ := Settings.unpack_value h (s := .tableWidth) (by decide)
  obtain ⟨_, _, _, hheight⟩ := Settings.unpack_value h (s := .tableHeight) (by decide)
  obtain ⟨_, _, _, hpadding⟩ := Settings.unpack_value h (s := .fitPadding) (by decide)
  -- the box of a table at the origin is as large as the table
  have hratio : ∀ {size : Float} {m e hm}, size.toModel.unpack = .finite .positive m e hm →
      Float.inf / (0 + size - 0) = Float.inf := by
    intro size m e hm hsize
    have hzero : (0 : Float) = Float.ofNat 0 := rfl
    rw [hzero, float_zero_add hsize, float_sub_zero hsize, inf_div hsize]
  have hfit : (v.fit [t] Float.inf Float.inf).zoom =
      v.settings.fitZoom (v.settings.footprint (v.positionOf t)) Float.inf Float.inf := rfl
  have hzoom : v.settings.fitZoom (v.settings.footprint ⟨0, 0⟩) Float.inf Float.inf =
      clampZoom (Coordinate.smallerFloat (Float.inf / (0 + v.settings .tableWidth - 0))
        (Float.inf / (0 + v.settings .tableHeight - 0)) * v.settings .fitPadding)
        (v.settings .minZoom) (v.settings .fitMaxZoom) := rfl
  have hsmaller : Coordinate.smallerFloat Float.inf Float.inf = Float.inf := by
    rw [Coordinate.smallerFloat, ite_self]
  rw [hfit, ht, hzoom, hratio hwidth, hratio hheight, hsmaller, inf_mul hpadding,
    clampZoom_inf (hfinite _) (hfinite _)]

/-- The pointer going down leaves the settings and the zoom alone. -/
theorem steady_pointerDown (t : PlacedTable Float) (pointer : Position Float) (host : Listeners) :
    (v.pointerDown t pointer host).2.1.settings = v.settings ∧
      (v.pointerDown t pointer host).2.1.zoom = v.zoom := by
  unfold pointerDown
  split
  · exact ⟨rfl, rfl⟩
  · dsimp only
    split <;> exact ⟨rfl, rfl⟩

/-- The pointer moving leaves the settings and the zoom alone. -/
theorem steady_pointerMove (pointer : Position Float) :
    (v.pointerMove pointer).2.settings = v.settings ∧
      (v.pointerMove pointer).2.zoom = v.zoom := by
  unfold pointerMove
  split <;> exact ⟨rfl, rfl⟩

/-- The pointer going up leaves the settings and the zoom alone. -/
theorem steady_pointerUp {σ : Type} [PositionSink σ Float] (sink : σ) (host : Listeners) :
    (v.pointerUp sink host).2.1.settings = v.settings ∧
      (v.pointerUp sink host).2.1.zoom = v.zoom := by
  unfold pointerUp
  split
  · exact ⟨rfl, rfl⟩
  · dsimp only
    split <;> exact ⟨rfl, rfl⟩

end View

/-! ### Runs -/

namespace Stage

variable {c : Settings Float} {s : Stage Float}

/-- Events keep the settings. -/
theorem settings_step (s : Stage Float) (e : ViewEvent Float) :
    (s.step e).view.settings = s.view.settings := by
  cases e with
  | down table pointer => exact (View.steady_pointerDown table pointer s.host).1
  | move pointer => exact (View.steady_pointerMove pointer).1
  | up => exact (View.steady_pointerUp s.commits s.host).1
  | fit tables width height =>
      obtain ⟨zoom, hstep⟩ := s.step_fit tables width height
      rw [hstep]
  | _ => rfl

/-- **Every event leaves a zoom that can be written.** -/
theorem writes_step (h : s.view.settings.fault? = none)
    (hzoom : s.view.settings.Writes s.view.zoom) (e : ViewEvent Float) :
    s.view.settings.Writes (s.step e).view.zoom := by
  have hset : ∀ zoom, s.view.settings.Writes (s.view.setZoom zoom).zoom := by
    intro zoom
    obtain ⟨hmin, hmax⟩ := View.inRange_setZoom h zoom
    exact .set hmin hmax
  have hkept : ∀ {zoom}, zoom = s.view.zoom → s.view.settings.Writes zoom := by
    rintro _ rfl
    exact hzoom
  cases e with
  | down table pointer => exact hkept (View.steady_pointerDown table pointer s.host).2
  | move pointer => exact hkept (View.steady_pointerMove pointer).2
  | up => exact hkept (View.steady_pointerUp s.commits s.host).2
  | teardown => exact hzoom
  | setZoom zoom => exact hset zoom
  | zoomIn => exact hset _
  | zoomOut => exact hset _
  | resetZoom => exact .start
  | snapToGrid enabled => exact hzoom
  | fit tables width height =>
      rcases View.zoom_fit h tables width height with hsame | ⟨hmin, hmax⟩
      · exact hkept hsame
      · exact .fit hmin hmax

/-- **Every run leaves a zoom that can be written.** -/
theorem writes_run (h : s.view.settings.fault? = none)
    (hzoom : s.view.settings.Writes s.view.zoom) (events : List (ViewEvent Float)) :
    (s.run events).view.settings = s.view.settings ∧
      s.view.settings.Writes (s.run events).view.zoom := by
  induction events generalizing s with
  | nil => exact ⟨rfl, hzoom⟩
  | cons e events ih =>
      have hstep := s.settings_step e
      have hrest := ih (s := s.step e) (by rwa [hstep]) (by
        rw [hstep]
        exact writes_step h hzoom e)
      rwa [hstep] at hrest

/-- **The zoom stays in range exactly if the settings say so.**  Take settings that pass the check.
The zoom is between the smallest and the largest one after every run of a view with these settings,
the empty run too, exactly if the zoom of the start is and fitting has no higher ceiling.  In any
case the zoom is one, or was set to something in the range, or fits under the ceiling of fitting. -/
theorem zoom_in_range_iff (h : c.fault? = none) :
    (∀ events, c.Writes ((ofSettings c).run events).view.zoom) ∧
    ((∀ events, ((ofSettings c).run events).view.InRange) ↔
      c .minZoom ≤ 1 ∧ 1 ≤ c .maxZoom ∧ c .fitMaxZoom ≤ c .maxZoom) := by
  have hrun : ∀ events, ((ofSettings c).run events).view.settings = c ∧
      c.Writes ((ofSettings c).run events).view.zoom :=
    writes_run (s := ofSettings c) h .start
  refine ⟨fun events => (hrun events).2, fun hrange => ?_, ?_⟩
  · -- nothing has happened yet, or one table was shown as large as fitting allows
    let table : PlacedTable Float :=
      { catalogId := 1, name := "", schema := none, database := 1, fields := []
        id := 1, aliasName := "", position := ⟨0, 0⟩ }
    have hstart := hrange []
    have hfit := hrange [.fit [table] Float.inf Float.inf]
    have hceiling : ((ofSettings c).run [.fit [table] Float.inf Float.inf]).view.zoom =
        c .fitMaxZoom := View.zoom_fit_inf (v := .ofSettings c) h rfl
    unfold View.InRange at hfit
    rw [(hrun _).1, hceiling] at hfit
    exact ⟨hstart.1, hstart.2, hfit.2⟩
  · rintro ⟨hone, hone', hceiling⟩ events
    obtain ⟨hsettings, hwrites⟩ := hrun events
    unfold View.InRange
    rw [hsettings]
    generalize ((ofSettings c).run events).view.zoom = zoom at hwrites
    cases hwrites with
    | start => exact ⟨hone, hone'⟩
    | set hmin hmax => exact ⟨hmin, hmax⟩
    | fit hmin hmax => exact ⟨hmin, float_le_trans hmax hceiling⟩

/-- The defaults keep the zoom in its range. -/
theorem zoom_in_range_sample :
    let c : Settings Float := .standard
    c.fault? = none ∧ c .minZoom ≤ 1 ∧ 1 ≤ c .maxZoom ∧ c .fitMaxZoom ≤ c .maxZoom ∧
      ∀ events, ((ofSettings c).run events).view.InRange := by
  intro c
  have hcheck : c.fault? = none := by decide +kernel
  have hone : c .minZoom ≤ 1 := by decide +kernel
  have hone' : 1 ≤ c .maxZoom := by decide +kernel
  have hceiling : c .fitMaxZoom ≤ c .maxZoom := by decide +kernel
  exact ⟨hcheck, hone, hone', hceiling, (zoom_in_range_iff hcheck).2.2 ⟨hone, hone', hceiling⟩⟩

/-- **Settings pass the check, and the zoom leaves its range.**  A view starts, and is reset, below
its smallest zoom; and a view that fits one small table is above its largest zoom. -/
theorem zoom_out_of_range :
    let table : PlacedTable Float :=
      { catalogId := 1, name := "orders", schema := none, database := 4, fields := []
        id := 7, aliasName := "o", position := ⟨50, 50⟩ }
    let low : Settings Float := fun s => if s = .minZoom then 1.1 else Settings.standard s
    let high : Settings Float := fun s => if s = .maxZoom then 1 else Settings.standard s
    low.fault? = none ∧ ¬ (ofSettings low).view.InRange ∧
      ¬ ((ofSettings low).run [.setZoom 1.2, .resetZoom]).view.InRange ∧
      high.fault? = none ∧ ¬ ((ofSettings high).run [.fit [table] 4000 4000]).view.InRange := by
  decide +kernel

end Stage

end QueryBuilder
