import SceneLoop.Number.Shortest
import SceneLoop.Toml.Value

/-!
# Writing a settings document

A document is written as sections with a line for each value.  A number always has a point, unless
it is not finite.

## Main definitions

* `Toml.Section`, `Toml.render` : the text of some sections.
-/

namespace SceneLoop.Toml

/-- The text of a number with a fraction or an exponent. -/
def realText (x : Float) : String :=
  if x.isNaN then "nan"
  else
    let text := Binary64.toText x
    match Binary64.integer? x with
    | some _ => text ++ ".0"
    | none => text

/-- A value that takes one word. -/
inductive Word where
  /-- A truth value. -/
  | bool (b : Bool)
  /-- An integer. -/
  | integer (n : UInt64)
  /-- A number with a fraction or an exponent. -/
  | real (x : Float)

/-- The text of a word. -/
def Word.toText : Word → String
  | .bool b => if b then "true" else "false"
  | .integer n => toString n
  | .real x => realText x

/-- A heading with the values under it. -/
structure Section where
  /-- The name in the heading. -/
  name : String
  /-- Keys and values. -/
  entries : List (String × Word)

/-- The text of a section. -/
def Section.toText (s : Section) : String :=
  "[" ++ s.name ++ "]\n" ++ String.join (s.entries.map fun e => e.1 ++ " = " ++ e.2.toText ++ "\n")

/-- The text of some sections, with an empty line between them. -/
def render (sections : List Section) : String :=
  "\n".intercalate (sections.map Section.toText)

end SceneLoop.Toml
