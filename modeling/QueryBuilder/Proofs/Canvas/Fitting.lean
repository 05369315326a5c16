/-
**The zoom that fits is the best one.**

Fitting the view takes the smallest box around all tables, and the zoom at which this box fills its
part of the container.  Under settings that pass the check the box has a positive width and height,
and so it can be divided by both.  Among all zooms between the smallest one and the largest one for
fitting, the zoom that is chosen is the largest at which the box still fits.  If the box fits at
none of them, it is the smallest one.

The smallest box around some tables does not depend on their order, because there is only one.

Main definitions:

* `QueryBuilder.Bounds.Within` — a box is a part of another one;
* `QueryBuilder.Bounds.Surrounds` — the smallest box around some others;
* `QueryBuilder.Settings.footprints` — the boxes of some tables;
* `QueryBuilder.Settings.fittingZooms` — the zooms at which a box fits a container.

Main results:

* `QueryBuilder.Bounds.Surrounds.unique` — there is only one smallest box;
* `QueryBuilder.Settings.surrounds_bounds?`, `QueryBuilder.Settings.bounds?_perm` — the box that
  is taken is the smallest one, whatever the order of the tables;
* `QueryBuilder.Settings.isGreatest_fitZoom`, `QueryBuilder.Settings.fitZoom_of_empty` — the zoom
  that is chosen;
* `QueryBuilder.View.fit_optimal` — **the zoom that fits is the best one**.
-/

import Mathlib.Order.Bounds.Basic
import QueryBuilder.Canvas.View
import QueryBuilder.Proofs.Canvas.Exact
import QueryBuilder.Proofs.Graph.Edits

set_option autoImplicit false

namespace QueryBuilder

/-! ### The smallest box -/

namespace Bounds

/-- A box is a part of another one. -/
structure Within (a b : Bounds Exact) : Prop where
  left : b.minX.value ≤ a.minX.value
  top : b.minY.value ≤ a.minY.value
  right : a.maxX.value ≤ b.maxX.value
  bottom : a.maxY.value ≤ b.maxY.value

variable {a b c : Bounds Exact}

theorem Within.refl (a : Bounds Exact) : a.Within a :=
  ⟨le_rfl, le_rfl, le_rfl, le_rfl⟩

theorem Within.trans (h : a.Within b) (h' : b.Within c) : a.Within c :=
  ⟨h'.left.trans h.left, h'.top.trans h.top, h.right.trans h'.right, h.bottom.trans h'.bottom⟩

theorem Within.antisymm (h : a.Within b) (h' : b.Within a) : a = b := by
  rw [Bounds.mk.injEq]
  exact ⟨Exact.ext (le_antisymm h'.left h.left), Exact.ext (le_antisymm h'.top h.top),
    Exact.ext (le_antisymm h.right h'.right), Exact.ext (le_antisymm h.bottom h'.bottom)⟩

/-- The box around two others is a part of all boxes that have both as parts, and of no more. -/
theorem join_within : (a.join b).Within c ↔ a.Within c ∧ b.Within c := by
  constructor
  · rintro ⟨hleft, htop, hright, hbottom⟩
    obtain ⟨hleft, hleft'⟩ := le_min_iff.1 hleft
    obtain ⟨htop, htop'⟩ := le_min_iff.1 htop
    obtain ⟨hright, hright'⟩ := max_le_iff.1 hright
    obtain ⟨hbottom, hbottom'⟩ := max_le_iff.1 hbottom
    exact ⟨⟨hleft, htop, hright, hbottom⟩, ⟨hleft', htop', hright', hbottom'⟩⟩
  · rintro ⟨h, h'⟩
    exact ⟨le_min h.left h'.left, le_min h.top h'.top, max_le h.right h'.right,
      max_le h.bottom h'.bottom⟩

/-- A box has all of some boxes as parts, and every other box that does has it as a part. -/
structure Surrounds (box : Bounds Exact) (parts : Set (Bounds Exact)) : Prop where
  within : ∀ a ∈ parts, a.Within box
  least : ∀ other, (∀ a ∈ parts, a.Within other) → box.Within other

/-- **There is only one smallest box.** -/
theorem Surrounds.unique {box box' : Bounds Exact} {parts : Set (Bounds Exact)}
    (h : box.Surrounds parts) (h' : box'.Surrounds parts) : box = box' :=
  (h.least box' h'.within).antisymm (h'.least box h.within)

end Bounds

namespace Settings

variable (c : Settings Exact)

/-- Boxes that are joined to a first one, one after the other, have those boxes as parts that have
all of them.  The induction is on the boxes behind the first, with the box so far. -/
theorem foldl_join_within (rest : List (Position Exact)) (box other : Bounds Exact) :
    (rest.foldl (fun b q => b.join (c.footprint q)) box).Within other ↔
      box.Within other ∧ ∀ q ∈ rest, (c.footprint q).Within other := by
  induction rest generalizing box with
  | nil => simp
  | cons q rest ih => rw [List.foldl_cons, ih, Bounds.join_within, List.forall_mem_cons, and_assoc]

/-- The boxes of tables at some places. -/
def footprints (places : List (Position Exact)) : Set (Bounds Exact) :=
  {a | ∃ p ∈ places, c.footprint p = a}

/-- **The box that is taken is the smallest one around all tables.** -/
theorem surrounds_bounds? {places : List (Position Exact)} (h : places ≠ []) :
    ∃ box, c.bounds? places = some box ∧ box.Surrounds (c.footprints places) := by
  cases places with
  | nil => exact (h rfl).elim
  | cons p rest =>
      have hparts : ∀ other, (rest.foldl (fun b q => b.join (c.footprint q))
          (c.footprint p)).Within other ↔ ∀ q ∈ p :: rest, (c.footprint q).Within other := by
        intro other
        rw [foldl_join_within, List.forall_mem_cons]
      refine ⟨_, rfl, ?_, fun other hother => (hparts other).2 fun q hq => hother _ ⟨q, hq, rfl⟩⟩
      rintro _ ⟨q, hq, rfl⟩
      exact (hparts _).1 (Bounds.Within.refl _) q hq

/-- The box that is taken does not depend on the order of the tables: in both orders it is the only
smallest one. -/
theorem bounds?_perm {places places' : List (Position Exact)} (h : places.Perm places') :
    c.bounds? places = c.bounds? places' := by
  rcases eq_or_ne places [] with rfl | hne
  · rw [List.nil_perm.1 h]
  · have hne' : places' ≠ [] := fun hnil => hne (List.perm_nil.1 (hnil ▸ h))
    obtain ⟨box, hbounds, hbox⟩ := c.surrounds_bounds? hne
    obtain ⟨box', hbounds', hbox'⟩ := c.surrounds_bounds? hne'
    have hsame : c.footprints places' = c.footprints places := by
      ext a
      simp only [footprints, Set.mem_ofPred_eq, h.mem_iff]
    rw [hsame] at hbox'
    rw [hbounds, hbounds', hbox.unique hbox']

/-- Boxes around tables have a positive width and height if tables have. -/
theorem surrounds_pos (h : c.fault? = none) {places : List (Position Exact)} {p : Position Exact}
    (hp : p ∈ places) {box : Bounds Exact}
    (hbox : box.Surrounds (c.footprints places)) :
    0 < box.width.value ∧ 0 < box.height.value := by
  have hwithin := hbox.within _ ⟨p, hp, rfl⟩
  have hleft : box.minX.value ≤ p.x.value := hwithin.left
  have hright : p.x.value + (c .tableWidth).value ≤ box.maxX.value := hwithin.right
  have htop : box.minY.value ≤ p.y.value := hwithin.top
  have hbottom : p.y.value + (c .tableHeight).value ≤ box.maxY.value := hwithin.bottom
  have hwidth : 0 < (c .tableWidth).value := value_pos h (by decide)
  have hheight : 0 < (c .tableHeight).value := value_pos h (by decide)
  simp only [Bounds.width, Bounds.height, Exact.value_sub]
  constructor <;> linarith

/-! ### The best zoom -/

/-- The zooms, in the range for fitting, at which a box fits its part of a container. -/
def fittingZooms (box : Bounds Exact) (width height : Exact) : Set ℚ :=
  {z | (c .minZoom).value ≤ z ∧ z ≤ (c .fitMaxZoom).value ∧
    box.width.value * z ≤ (c .fitPadding).value * width.value ∧
    box.height.value * z ≤ (c .fitPadding).value * height.value}

/-- The zoom at which a box fills its part of a container. -/
def fillingZoom (box : Bounds Exact) (width height : Exact) : ℚ :=
  min (width.value / box.width.value) (height.value / box.height.value) * (c .fitPadding).value

variable {c} {box : Bounds Exact}

/-- A box fits at a zoom exactly if it is not above the one at which the box fills its part. -/
theorem le_fillingZoom (h : c.fault? = none) (hwidth : 0 < box.width.value)
    (hheight : 0 < box.height.value) (width height : Exact) (z : ℚ) :
    z ≤ c.fillingZoom box width height ↔
      box.width.value * z ≤ (c .fitPadding).value * width.value ∧
      box.height.value * z ≤ (c .fitPadding).value * height.value := by
  have hpadding : 0 < (c .fitPadding).value := value_pos h (by decide)
  have hfill : ∀ side size : ℚ, 0 < side →
      (z ≤ size / side * (c .fitPadding).value ↔ side * z ≤ (c .fitPadding).value * size) := by
    intro side size hside
    rw [div_mul_eq_mul_div, le_div_iff₀ hside, mul_comm z, mul_comm size]
  rw [fillingZoom, min_mul_of_nonneg _ _ hpadding.le, le_min_iff, hfill _ _ hwidth,
    hfill _ _ hheight]

theorem mem_fittingZooms (h : c.fault? = none) (hwidth : 0 < box.width.value)
    (hheight : 0 < box.height.value) (width height : Exact) (z : ℚ) :
    z ∈ c.fittingZooms box width height ↔
      (c .minZoom).value ≤ z ∧ z ≤ min (c.fillingZoom box width height) (c .fitMaxZoom).value := by
  rw [le_min_iff, le_fillingZoom h hwidth hheight, and_comm (b := z ≤ _)]
  rfl

/-- The zoom that is chosen is the one at which the box fills its part, kept in the range. -/
theorem value_fitZoom (width height : Exact) :
    (c.fitZoom box width height).value =
      min (max (c.fillingZoom box width height) (c .minZoom).value) (c .fitMaxZoom).value := rfl

/-- **The zoom that is chosen is the largest one at which the box fits**, if there is any. -/
theorem isGreatest_fitZoom (h : c.fault? = none) (hwidth : 0 < box.width.value)
    (hheight : 0 < box.height.value) {width height : Exact}
    (hfits : (c.fittingZooms box width height).Nonempty) :
    IsGreatest (c.fittingZooms box width height) (c.fitZoom box width height).value := by
  obtain ⟨z, hz⟩ := hfits
  obtain ⟨hmin, hmax⟩ := (mem_fittingZooms h hwidth hheight width height z).1 hz
  have hfill : (c .minZoom).value ≤ c.fillingZoom box width height :=
    hmin.trans (hmax.trans (min_le_left _ _))
  have hchosen : (c.fitZoom box width height).value =
      min (c.fillingZoom box width height) (c .fitMaxZoom).value := by
    rw [value_fitZoom, max_eq_left hfill]
  rw [hchosen]
  constructor
  · exact (mem_fittingZooms h hwidth hheight width height _).2 ⟨hmin.trans hmax, le_rfl⟩
  · intro z' hz'
    exact ((mem_fittingZooms h hwidth hheight width height z').1 hz').2

/-- The zoom that is chosen is the smallest one if the box fits at none. -/
theorem fitZoom_of_empty (h : c.fault? = none) (hwidth : 0 < box.width.value)
    (hheight : 0 < box.height.value) {width height : Exact}
    (hfits : c.fittingZooms box width height = ∅) :
    c.fitZoom box width height = c .minZoom := by
  have hrange : (c .minZoom).value ≤ (c .fitMaxZoom).value := minZoom_le h (by decide)
  -- the smallest zoom itself is none at which the box fits
  have hmin : (c .minZoom).value ∉ c.fittingZooms box width height := by
    rw [hfits]
    exact Set.notMem_empty _
  have hfill : c.fillingZoom box width height < (c .minZoom).value := by
    by_contra hle
    exact hmin ((mem_fittingZooms h hwidth hheight width height _).2
      ⟨le_rfl, le_min (not_lt.1 hle) hrange⟩)
  apply Exact.ext
  rw [value_fitZoom, max_eq_right hfill.le, min_eq_left hrange]

end Settings

/-! ### Fitting the view -/

namespace View

/-- Without tables the zoom stays. -/
theorem fit_nil {α : Type} [Coordinate α] (v : View α) (width height : α) :
    v.fit [] width height = v := rfl

/-- **The zoom that fits is the best one.**  Take a view with settings that pass the check, tables
of which a dragged one counts where its shadow is, and a container of any size.  There is one
smallest box around the tables, and it is the one that is taken, also with the tables in any other
order.  It has a positive width and height.  The zoom that is chosen is the largest one in the range
for fitting at which the box fits its part of the container, or the smallest one in the range if it
fits at none.  Without tables the view stays as it is. -/
theorem fit_optimal (v : View Exact) (h : v.settings.fault? = none) (width height : Exact) :
    v.fit [] width height = v ∧
    ∀ tables : List (PlacedTable Exact), tables ≠ [] →
      ∃ box : Bounds Exact,
        (∀ other : List (PlacedTable Exact), other.Perm tables →
          v.settings.bounds? (other.map v.positionOf) = some box) ∧
        (∀ box' : Bounds Exact,
          box'.Surrounds (v.settings.footprints (tables.map v.positionOf)) ↔ box' = box) ∧
        0 < box.width.value ∧ 0 < box.height.value ∧
        (let fitting := v.settings.fittingZooms box width height
         let fitted := v.fit tables width height
         fitted = { v with zoom := fitted.zoom } ∧
         (fitting.Nonempty → IsGreatest fitting fitted.zoom.value) ∧
         (fitting = ∅ → fitted.zoom = v.settings .minZoom)) := by
  refine ⟨fit_nil v width height, fun tables hne => ?_⟩
  have hne' : tables.map v.positionOf ≠ [] := by simpa using hne
  obtain ⟨box, hbounds, hbox⟩ := v.settings.surrounds_bounds? hne'
  obtain ⟨p, hp⟩ := List.exists_mem_of_ne_nil _ hne'
  obtain ⟨hwidth, hheight⟩ := v.settings.surrounds_pos h hp hbox
  have hfit : v.fit tables width height =
      { v with zoom := v.settings.fitZoom box width height } := by
    rw [fit, hbounds]
  refine ⟨box, fun other hperm => ?_, fun box' => ⟨fun hbox' => hbox'.unique hbox, ?_⟩, hwidth,
    hheight, ?_, ?_, ?_⟩
  · rw [v.settings.bounds?_perm (hperm.map v.positionOf), hbounds]
  · rintro rfl
    exact hbox
  · rw [hfit]
  · intro hfits
    rw [hfit]
    exact Settings.isGreatest_fitZoom h hwidth hheight hfits
  · intro hfits
    rw [hfit]
    exact Settings.fitZoom_of_empty h hwidth hheight hfits

/-- The second table is dragged, and the two tables fill nine tenths of the width of the
container. -/
theorem fit_optimal_sample :
    let c : Settings Exact := .standard
    let v : View Exact := { ofSettings c with shadow := [(2, ⟨⟨780⟩, ⟨220⟩⟩)] }
    let tables : List (PlacedTable Exact) :=
      [{ Sample.orders with id := 1, aliasName := "o", position := ⟨⟨0⟩, ⟨0⟩⟩ },
        { Sample.customers with id := 2, aliasName := "c", position := ⟨⟨100⟩, ⟨0⟩⟩ }]
    c.fault? = none ∧ tables ≠ [] ∧
      v.settings.bounds? (tables.map v.positionOf) = some ⟨⟨0⟩, ⟨0⟩, ⟨1000⟩, ⟨500⟩⟩ ∧
      IsGreatest (c.fittingZooms ⟨⟨0⟩, ⟨0⟩, ⟨1000⟩, ⟨500⟩⟩ ⟨800⟩ ⟨600⟩) (18 / 25) := by
  intro c v tables
  have hcheck : c.fault? = none := by decide +kernel
  have hne : tables ≠ [] := List.cons_ne_nil _ _
  have hbounds : v.settings.bounds? (tables.map v.positionOf) =
      some ⟨⟨0⟩, ⟨0⟩, ⟨1000⟩, ⟨500⟩⟩ := by decide +kernel
  have hzoom : (v.fit tables ⟨800⟩ ⟨600⟩).zoom.value = 18 / 25 := by decide +kernel
  obtain ⟨box, hbox, -, -, -, -, hgreatest, -⟩ :=
    (v.fit_optimal hcheck ⟨800⟩ ⟨600⟩).2 tables hne
  rw [hbox tables (.refl _), Option.some.injEq] at hbounds
  subst hbounds
  rw [hzoom] at hgreatest
  refine ⟨hcheck, hne, hbox tables (.refl _), hgreatest ⟨18 / 25, ?_⟩⟩
  refine ⟨?_, ?_, ?_, ?_⟩ <;> decide +kernel

end View

end QueryBuilder
