import SceneLoop.Settings.Basic
import SceneLoop.Toml.Reader
import SceneLoop.Toml.Writer

/-!
# Settings documents

Settings are read from a document and written to one.  What a document leaves out keeps its
default, and what it has beyond the settings is passed over.  A section may be given as an array
of its values in order.

## Main definitions

* `Settings.ofDocument?` : the settings in a document.
* `Settings.toDocument` : the document for some settings.
-/

namespace SceneLoop

namespace Toml

/-- An unsigned 64-bit word. -/
def word64? : Toml → Option UInt64
  | .integer n => if 0 ≤ n ∧ n < 2 ^ 64 then some (UInt64.ofNat n.toNat) else none
  | _ => none

/-- A number; an integer has to fit a signed or an unsigned 64-bit word. -/
def double? : Toml → Option Float
  | .integer n => if -2 ^ 63 ≤ n ∧ n < 2 ^ 64 then some (.ofInt n) else none
  | .real x => some x
  | _ => none

/-- A truth value. -/
def bool? : Toml → Option Bool
  | .bool b => some b
  | _ => none

/-- Names of values with what each of them sets. -/
abbrev Setters (α : Type) := List (String × (α → Toml → Option α))

/-- Set what the entries of a section name. -/
def readEntries {α : Type} (setters : Setters α) (a : α) (entries : List (String × Toml)) :
    Option α :=
  entries.foldlM (fun a e =>
    match setters.lookup e.1 with
    | some set => set a e.2
    | none => if e.2.isReadable then some a else none) a

/-- Set what a section names.  A moment names nothing that is known. -/
def readSection {α : Type} (setters : Setters α) (a : α) : Toml → Option α
  | .table entries => readEntries setters a entries
  | .array items => (items.zip setters).foldlM (fun a e => e.2.2 a e.1) a
  | .moment _ => some a
  | _ => none

end Toml

open Toml

/-- The values of the section on playback. -/
def PlaybackSettings.setters : Setters PlaybackSettings :=
  [("default_duration_ms", fun s v => v.word64?.map fun defaultPeriod => { s with defaultPeriod }),
    ("max_frame_delta_ms", fun s v => v.double?.map fun maxFrameDelta => { s with maxFrameDelta }),
    ("autoplay", fun s v => v.bool?.map fun autoplay => { s with autoplay }),
    ("demo_when_empty", fun s v => v.bool?.map fun demoWhenEmpty => { s with demoWhenEmpty })]

/-- The values of the section on the canvas. -/
def CanvasSettings.setters : Setters CanvasSettings :=
  [("min_width", fun s v => v.double?.map fun w => { s with least.width := w }),
    ("min_height", fun s v => v.double?.map fun h => { s with least.height := h }),
    ("fallback_width", fun s v => v.double?.map fun w => { s with fallback.width := w }),
    ("fallback_height", fun s v => v.double?.map fun h => { s with fallback.height := h })]

/-- The values of the section on the theme. -/
def Settings.themeSetters : Setters Bool :=
  [("dark", fun _ v => v.bool?)]

/-- The values of the section on the demo. -/
def DemoSettings.setters : Setters DemoSettings :=
  [("period_ms", fun s v => v.double?.map fun period => { s with period }),
    ("radius", fun s v => v.double?.map fun radius => { s with radius }),
    ("margin", fun s v => v.double?.map fun margin => { s with margin }),
    ("show_trace", fun s v => v.bool?.map fun showTrace => { s with showTrace })]

namespace Settings

/-- The sections.  Each starts from its defaults. -/
def setters : Setters Settings :=
  [("playback", fun s v =>
      (readSection PlaybackSettings.setters {} v).map fun playback => { s with playback }),
    ("canvas", fun s v =>
      (readSection CanvasSettings.setters {} v).map fun canvas => { s with canvas }),
    ("theme", fun s v => (readSection themeSetters false v).map fun isDark => { s with isDark }),
    ("demo", fun s v => (readSection DemoSettings.setters {} v).map fun demo => { s with demo })]

/-- The settings in a document. -/
def ofDocument? (document : String) : Option Settings :=
  (Toml.parse? document).bind (readSection setters {})

/-- The sections of the document for some settings. -/
def sections (s : Settings) : List Toml.Section :=
  [⟨"playback",
      [("default_duration_ms", .integer s.playback.defaultPeriod),
        ("max_frame_delta_ms", .real s.playback.maxFrameDelta),
        ("autoplay", .bool s.playback.autoplay),
        ("demo_when_empty", .bool s.playback.demoWhenEmpty)]⟩,
    ⟨"canvas",
      [("min_width", .real s.canvas.least.width), ("min_height", .real s.canvas.least.height),
        ("fallback_width", .real s.canvas.fallback.width),
        ("fallback_height", .real s.canvas.fallback.height)]⟩,
    ⟨"theme", [("dark", .bool s.isDark)]⟩,
    ⟨"demo",
      [("period_ms", .real s.demo.period), ("radius", .real s.demo.radius),
        ("margin", .real s.demo.margin), ("show_trace", .bool s.demo.showTrace)]⟩]

/-- The document for some settings. -/
def toDocument (s : Settings) : String :=
  Toml.render s.sections

end Settings

end SceneLoop
