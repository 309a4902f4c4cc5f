import SceneLoop.Color

/-!
# Themes

A theme gives the colors that stand in where a layer names none.

## Main definitions

* `Theme`, `Palette` : the two themes and their colors.
-/

namespace SceneLoop

/-- The colors that stand in where a layer names none. -/
structure Palette where
  /-- Fill of rectangles, circles and texts. -/
  fill : Color
  /-- Stroke of lines. -/
  stroke : Color
  /-- Fill of the marker for a layer of unknown type. -/
  placeholder : Color
  /-- Fill of the moving disc of the demo. -/
  accent : Color
  /-- The empty frame. -/
  background : Color
deriving DecidableEq

/-- A light or a dark surrounding. -/
inductive Theme where
  /-- Dark shapes on a light ground. -/
  | light
  /-- Light shapes on a dark ground. -/
  | dark
deriving DecidableEq, Inhabited

namespace Theme

/-- The theme that a flag asks for. -/
def ofFlag (isDark : Bool) : Theme :=
  if isDark then .dark else .light

/-- Whether the theme is the dark one. -/
def isDark : Theme → Bool
  | .light => false
  | .dark => true

/-- The name of the theme. -/
def name : Theme → String
  | .light => "light"
  | .dark => "dark"

/-- The colors of the theme. -/
def palette : Theme → Palette
  | .light =>
    { fill := .ofBytes 0x33 0x33 0x33
      stroke := .ofBytes 0x77 0x77 0x77
      placeholder := .ofBytes 0xcc 0xcc 0xcc
      accent := .ofBytes 0x22 0xc5 0x5e
      background := .white }
  | .dark =>
    { fill := .ofBytes 0xe0 0xe0 0xe0
      stroke := .ofBytes 0x88 0x88 0x88
      placeholder := .ofBytes 0x66 0x66 0x66
      accent := .ofBytes 0x4a 0xde 0x80
      background := .ofBytes 0x11 0x18 0x27 }

end Theme

end SceneLoop
