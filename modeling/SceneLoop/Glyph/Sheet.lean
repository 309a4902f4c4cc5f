import SceneLoop.Glyph.Face
import SceneLoop.Json.Value

/-!
# Glyph sheets

A glyph sheet lists the images of some characters of a font at one size.  The sheets of a font make
a face.

## Main definitions

* `GlyphSheet`, `GlyphSheet.ofJson?` : a sheet, and reading one.
* `Face.ofSheets` : the face that some sheets make.
-/

namespace SceneLoop

/-- The images of some characters at one size. -/
structure GlyphSheet where
  /-- The name of the font. -/
  font : String
  /-- The size. -/
  size : Float32
  /-- The line height. -/
  height : LineHeight
  /-- Characters and their images. -/
  glyphs : List (Char × Glyph)

namespace GlyphSheet

/-- A field with a number. -/
def number? (fields : Fields) (name : String) : Option Float :=
  match fields.get? name with
  | some (.number n) => some n.toDouble
  | _ => none

/-- A field with a number in single precision. -/
def single? (fields : Fields) (name : String) : Option Float32 :=
  (number? fields name).map Binary64.toSingle

/-- A field with an integer. -/
def integer? (fields : Fields) (name : String) : Option Int :=
  match fields.get? name with
  | some (.number (.integer n)) => some n
  | _ => none

/-- The bytes of an array. -/
def bytes? : List Json → Option ByteArray :=
  List.foldlM (fun data v =>
    match v with
    | .number (.integer n) => if 0 ≤ n ∧ n < 256 then some (data.push n.toNat.toUInt8) else none
    | _ => none) .empty

/-- The image that the fields of an object describe. -/
def glyph? (fields : Fields) : Option Glyph := do
  let advance ← single? fields "advance"
  let left ← integer? fields "xmin"
  let bottom ← integer? fields "ymin"
  let width ← integer? fields "width"
  let height ← integer? fields "height"
  let items ← (fields.get? "bitmap").bind Json.items?
  let coverage ← bytes? items
  return ⟨advance, .ofInt left, .ofInt bottom, width.toNat, height.toNat, coverage⟩

/-- The character that a name spells, and the image that a value describes. -/
def entry? (field : String × Json) : Option (Char × Glyph) := do
  let [letter] := field.1.toList | none
  let fields ← field.2.fields?
  let glyph ← glyph? fields
  return (letter, glyph)

/-- The sheet that a value describes. -/
def ofJson? (v : Json) : Option GlyphSheet := do
  let fields ← v.fields?
  let font ← (Fields.get? "font" fields).bind Json.text?
  let size ← single? fields "size"
  let ascent ← single? fields "ascent"
  let descent ← single? fields "descent"
  let entries ← (Fields.get? "glyphs" fields).bind Json.fields?
  let glyphs ← entries.mapM entry?
  return ⟨font, size, ⟨ascent, descent⟩, glyphs⟩

/-- The sheets that an array describes. -/
def listOfJson? (v : Json) : Option (List GlyphSheet) :=
  v.items?.bind fun items => items.mapM ofJson?

end GlyphSheet

/-- The face that some sheets make.  A size or a character that no sheet has is missing. -/
def Face.ofSheets (sheets : List GlyphSheet) : Face where
  lineHeight? size := (sheets.find? fun s => s.size == size).map GlyphSheet.height
  glyph size letter :=
    ((sheets.filter fun s => s.size == size).findSome? fun s =>
      s.glyphs.lookup letter).getD .missing

end SceneLoop
