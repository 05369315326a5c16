/-
**Settings of the canvas.**

Fifteen numbers fix the sizes on the canvas, where new tables go, and how far one can zoom.  They
are a function from the names of the settings, so that reading, writing, defaults and checks all
go by the same list of names.

Settings are read as overrides of the defaults and have to pass a check: all finite, sizes and
factors positive, and the smallest zoom below both of the largest ones.

Main definitions:

* `QueryBuilder.Setting`, `QueryBuilder.Settings` — the names, and a number for each;
* `QueryBuilder.Settings.standard` — the defaults;
* `QueryBuilder.Settings.check` — the first fault of settings;
* `QueryBuilder.Settings.override` — defaults with some settings replaced;
* `QueryBuilder.Settings.toJson`, `QueryBuilder.Settings.overridesOfDraft` — writing and reading.
-/

import QueryBuilder.Canvas.Coordinate
import QueryBuilder.Decimal.Spelling

set_option autoImplicit false

namespace QueryBuilder

/-! ### Names -/

/-- The name of a setting. -/
inductive Setting where
  /-- The size of a table. -/
  | tableWidth | tableHeight
  /-- The height of the strip by which a table is dragged. -/
  | headerHeight
  /-- Where the first table goes. -/
  | originX | spawnY
  /-- The gap between a new table and the rightmost one. -/
  | spawnMargin
  /-- The distance between grid lines. -/
  | gridPitch
  /-- The range of the zoom and the size of its steps. -/
  | minZoom | maxZoom | zoomStep
  /-- The largest zoom that fitting chooses, and the part of the view that it fills. -/
  | fitMaxZoom | fitPadding
  /-- The scale and the size of the overview. -/
  | minimapScale | minimapWidth | minimapHeight
  deriving DecidableEq, Repr

namespace Setting

/-- All settings, in the order in which they are written. -/
def all : List Setting :=
  [tableWidth, tableHeight, headerHeight, originX, spawnY, spawnMargin, gridPitch, minZoom,
   maxZoom, zoomStep, fitMaxZoom, fitPadding, minimapScale, minimapWidth, minimapHeight]

theorem mem_all (s : Setting) : s ∈ all := by
  cases s <;> decide

/-- The name of a setting in a text. -/
def name : Setting → String
  | tableWidth => "table_width"
  | tableHeight => "table_height"
  | headerHeight => "header_height"
  | originX => "origin_x"
  | spawnY => "spawn_y"
  | spawnMargin => "spawn_margin"
  | gridPitch => "grid_pitch"
  | minZoom => "min_zoom"
  | maxZoom => "max_zoom"
  | zoomStep => "zoom_step"
  | fitMaxZoom => "fit_max_zoom"
  | fitPadding => "fit_padding"
  | minimapScale => "minimap_scale"
  | minimapWidth => "minimap_width"
  | minimapHeight => "minimap_height"

/-- The setting with a name. -/
def ofName? (s : String) : Option Setting :=
  all.find? fun setting => setting.name == s

/-- The settings that have to be positive. -/
def positive : List Setting :=
  [tableWidth, tableHeight, minZoom, zoomStep, fitPadding, minimapScale]

/-- The settings that the smallest zoom must not exceed. -/
def zoomCeilings : List Setting :=
  [maxZoom, fitMaxZoom]

end Setting

/-- A number for each setting. -/
abbrev Settings (α : Type) := Setting → α

/-! ### Checks -/

/-- Why settings are refused. -/
inductive SettingsError (α : Type) where
  | notFinite (setting : Setting)
  | notPositive (setting : Setting)
  | zoomBounds (min max : α)
  deriving DecidableEq, Repr

/-- The text that is shown. -/
def SettingsError.message : SettingsError Float → String
  | .notFinite s => "Layout setting " ++ s.name ++ " must be a finite number"
  | .notPositive s => "Layout setting " ++ s.name ++ " must be positive"
  | .zoomBounds min max =>
    "Zoom bounds out of order: minimum " ++ (Decimal.plain.write? min).getD "" ++
      " exceeds maximum " ++ (Decimal.plain.write? max).getD ""

namespace Settings

variable {α : Type} [Coordinate α]

/-- The defaults. -/
def standard : Settings α
  | .tableWidth => Coordinate.whole 220
  | .tableHeight => Coordinate.whole 280
  | .headerHeight => Coordinate.whole 40
  | .originX => Coordinate.whole 50
  | .spawnY => Coordinate.whole 50
  | .spawnMargin => Coordinate.whole 40
  | .gridPitch => Coordinate.whole 20
  | .minZoom => Coordinate.tenths 5
  | .maxZoom => Coordinate.tenths 15
  | .zoomStep => Coordinate.tenths 1
  | .fitMaxZoom => Coordinate.tenths 12
  | .fitPadding => Coordinate.tenths 9
  | .minimapScale => Coordinate.tenths 1
  | .minimapWidth => Coordinate.whole 200
  | .minimapHeight => Coordinate.whole 150

/-- The first fault of settings: first what is not finite, then what is not positive, then a
smallest zoom above a largest one. -/
def fault? (c : Settings α) : Option (SettingsError α) :=
  ((Setting.all.find? fun s => !Coordinate.isFinite (c s)).map .notFinite).or <|
  ((Setting.positive.find? fun s => Coordinate.le (c s) (Coordinate.whole 0)).map
    .notPositive).or <|
  (Setting.zoomCeilings.find? fun s => Coordinate.lt (c s) (c .minZoom)).map fun s =>
    .zoomBounds (c .minZoom) (c s)

/-- Settings without a fault. -/
def check (c : Settings α) : Except (SettingsError α) Unit :=
  match c.fault? with
  | some e => .error e
  | none => .ok ()

/-- The defaults with some settings replaced, if they pass the check. -/
def override (overrides : Setting → Option α) : Except (SettingsError α) (Settings α) :=
  let c : Settings α := fun s => (overrides s).getD (standard s)
  match c.fault? with
  | some e => .error e
  | none => .ok c

/-! ### Texts -/

/-- Writes settings. -/
def toJson (c : Settings Float) : Json :=
  .record (Setting.all.map fun s => (s.name, .float (c s)))

/-- Reads overrides; a name that is no setting is a fault. -/
def overridesOfDraft : Json.Decoder (Setting → Option Float) :=
  Json.recordOf (Setting.all.map Setting.name) true fun r =>
    Json.Reading.family Setting.all (fun s => r.optional s.name Json.double) none

end Settings

end QueryBuilder
