import SceneLoop.Frame

/-!
# Faces

A face says, for every size, how high its lines are and what the image of each character is.  A
line of text is a row of such images, each one moved to the right by the advances before it.

The address of a pixel in the frame is a pair of sums of words.  A sum that is not a word overflows:
it wraps around, or the program halts where sums are checked.

## Main definitions

* `Glyph`, `Face` : the image of a character, and all images of a font.
* `Face.measure`, `Face.drawLine` : the extent of a line of text, and painting it.
* `Face.isAddressable`, `Face.drawLine?` : whether no sum overflows, and painting unless one does.
-/

namespace SceneLoop

/-- The image of a character at a size. -/
structure Glyph where
  /-- How far the next character is moved to the right. -/
  advance : Float32
  /-- Where the image starts, to the right of the pen. -/
  left : Int32
  /-- Where the image ends, above the line that letters stand on. -/
  bottom : Int32
  /-- Width in pixels. -/
  width : Nat
  /-- Height in pixels. -/
  height : Nat
  /-- How much of each pixel is covered, out of 255, row by row from the top. -/
  coverage : ByteArray

/-- The image of a character that a face does not have. -/
def Glyph.missing : Glyph :=
  ⟨0, 0, 0, 0, 0, .empty⟩

/-- How far a line reaches above and below the line that letters stand on. -/
structure LineHeight where
  /-- Upwards. -/
  ascent : Float32
  /-- Downwards; negative if the line reaches below. -/
  descent : Float32

/-- The line height at a size, for a face that says nothing about it. -/
def LineHeight.ofSize (size : Float32) : LineHeight :=
  ⟨size * 0.8, -size * 0.2⟩

/-- What a font has for each size. -/
structure Face where
  /-- The line height at a size, if the font says. -/
  lineHeight? : Float32 → Option LineHeight
  /-- The image of a character at a size. -/
  glyph : Float32 → Char → Glyph

/-- The extent of a line of text. -/
structure LineMeasure extends LineHeight where
  /-- The sum of all advances. -/
  width : Float32

namespace Glyph

/-- A glyph with as many bytes as pixels. -/
def IsWhole (g : Glyph) : Prop :=
  g.coverage.size = g.width * g.height

/-- How much of a pixel of the image is covered. -/
def coverageAt (g : Glyph) (column row : Nat) : UInt8 :=
  if h : row * g.width + column < g.coverage.size then g.coverage[row * g.width + column] else 0

/-- Where the image begins, above the line that letters stand on. -/
def top (g : Glyph) : Int32 :=
  .ofNat g.height + g.bottom

/-- Whether that sum does not overflow. -/
def hasTop (g : Glyph) : Bool :=
  !(Int32.ofNat g.height).toBitVec.saddOverflow g.bottom.toBitVec

/-- The column and the row of the frame where the image begins, for a pen on the line that letters
stand on. -/
def origin (g : Glyph) (penX penY : Float32) : Int64 × Int64 :=
  (.ofInt (Binary32.nearestWord (penX + Float32.ofInt g.left.toInt)),
    .ofInt (Binary32.nearestWord (penY - Float32.ofInt g.top.toInt)))

/-- Paint one pixel of the image. -/
@[inline] def paintAt (g : Glyph) (c : Color) (origin : Int64 × Int64) (column row : Nat)
    (f : Frame) : Frame :=
  let coverage := g.coverageAt column row
  if coverage = 0 then f
  else f.blend (origin.1 + .ofNat column) (origin.2 + .ofNat row) c (coverage.toFloat32 / 255)

/-- Whether the sums for a pixel of the image do not overflow. -/
def isAddressableAt (origin : Int64 × Int64) (column row : Nat) : Bool :=
  !(origin.1.toBitVec.saddOverflow (Int64.ofNat column).toBitVec ||
    origin.2.toBitVec.saddOverflow (Int64.ofNat row).toBitVec)

/-- Whether no sum for a covered pixel of the image overflows. -/
def isAddressable (g : Glyph) (origin : Int64 × Int64) : Bool :=
  (List.range g.height).all fun row => (List.range g.width).all fun column =>
    g.coverageAt column row = 0 || isAddressableAt origin column row

/-- Paint the image row by row. -/
def paint (g : Glyph) (c : Color) (origin : Int64 × Int64) (f : Frame) : Frame :=
  Nat.fold g.height
    (fun row _ f => Nat.fold g.width (fun column _ f => g.paintAt c origin column row f) f) f

end Glyph

namespace Face

/-- The line height at a size. -/
def lineHeight (face : Face) (size : Float32) : LineHeight :=
  (face.lineHeight? size).getD (.ofSize size)

/-- The extent of a line of text.  The width of no text at all is negative zero. -/
def measure (face : Face) (size : Float32) (text : List Char) : LineMeasure where
  toLineHeight := face.lineHeight size
  width := text.foldl (fun width c => width + (face.glyph size c).advance) (-0)

/-- Paint a line of text from a pen position. -/
def drawLine (face : Face) (size : Float32) (c : Color) (penY : Float32) :
    List Char → Float32 → Frame → Frame
  | [], _, f => f
  | letter :: rest, penX, f =>
    let g := face.glyph size letter
    drawLine face size c penY rest (penX + g.advance) (g.paint c (g.origin penX penY) f)

/-- Whether no sum for a line of text overflows. -/
def isAddressable (face : Face) (size penY : Float32) : List Char → Float32 → Bool
  | [], _ => true
  | letter :: rest, penX =>
    let g := face.glyph size letter
    g.hasTop && g.isAddressable (g.origin penX penY) &&
      isAddressable face size penY rest (penX + g.advance)

/-- Paint a line of text from a pen position, unless a sum overflows. -/
def drawLine? (face : Face) (size : Float32) (c : Color) (penY : Float32) (text : List Char)
    (penX : Float32) (f : Frame) : Option Frame :=
  if face.isAddressable size penY text penX then some (face.drawLine size c penY text penX f)
  else none

end Face

end SceneLoop
