import SceneLoop.Fault
import SceneLoop.Glyph.Face

/-!
# Font books

A font book has the faces that were loaded, by name.  A name that was not loaded stands for the
name that was loaded first.

## Main definitions

* `FontBook`, `FontBook.load`, `FontBook.face?` : loading a face and finding one.

## Main results

* `FontBook.named?_load` : what loading a face changes.
-/

namespace SceneLoop

/-- The faces that were loaded. -/
structure FontBook where
  /-- Names and faces, the last one loaded first. -/
  faces : List (String × Face)
  /-- The name that was loaded first. -/
  first : Option String

namespace FontBook

/-- The font book without faces. -/
def empty : FontBook :=
  ⟨[], none⟩

instance : Inhabited FontBook := ⟨empty⟩

/-- The face last loaded under a name. -/
def named? (book : FontBook) (name : String) : Option Face :=
  book.faces.lookup name

/-- The face for a name: the one loaded under it, or under the first name. -/
def face? (book : FontBook) (name : String) : Option Face :=
  (book.named? name).or (book.first.bind book.named?)

/-- Whether there is a face for every name. -/
def hasFace (book : FontBook) : Bool :=
  (book.face? "").isSome

/-- Load a face under a name. -/
def load (book : FontBook) (name : String) (face : Face) : FontBook where
  faces := (name, face) :: book.faces
  first := book.first.or (some name)

/-- Load a face under a name from what was read, which may be no face. -/
def loadRead (book : FontBook) (name : String) : Option Face → Except Fault FontBook
  | some face => .ok (book.load name face)
  | none => .error (.invalidArgument ("failed to parse font " ++ name))

/-- The face under a name after another one is loaded. -/
theorem named?_load (book : FontBook) (name other : String) (face : Face) :
    (book.load name face).named? other =
      if other = name then some face else book.named? other := by
  by_cases h : other = name
  · simp [named?, load, h]
  · have h' : (other == name) = false := beq_eq_false_iff_ne.2 h
    simp [named?, load, List.lookup_cons, h, h']

/-- The extent of a line of text, if there is a face for it. -/
def measure? (book : FontBook) (family : String) (text : String) (size : Float32) :
    Option LineMeasure :=
  (book.face? family).map fun face => face.measure size text.toList

/-- Paint a line of text, if there is a face for it. -/
def drawLine (book : FontBook) (family text : String) (size penX penY : Float32) (c : Color)
    (f : Frame) : Frame :=
  match book.face? family with
  | some face => face.drawLine size c penY text.toList penX f
  | none => f

/-- Whether no sum for a line of text overflows. -/
def isAddressable (book : FontBook) (family text : String) (size penX penY : Float32) : Bool :=
  match book.face? family with
  | some face => face.isAddressable size penY text.toList penX
  | none => true

/-- Paint a line of text, if there is a face for it, unless a sum overflows. -/
def drawLine? (book : FontBook) (family text : String) (size penX penY : Float32) (c : Color)
    (f : Frame) : Option Frame :=
  match book.face? family with
  | some face => face.drawLine? size c penY text.toList penX f
  | none => some f

end FontBook

end SceneLoop
