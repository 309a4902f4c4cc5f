import SceneLoop.Frame
import SceneLoop.Raster.Path

/-!
# Coverage

Each pixel has sixteen sample points.  A set of points is painted over a frame in proportion to
how many sample points of a pixel belong to it.

## Main definitions

* `Region` : a set of points.
* `Frame.cover` : painting a set of points.
* `Path.interior`, `Path.ribbon` : the inside of a path and a ribbon along it.

## Main results

* `Path.interior_contains` : the inside is where the outline winds around a point, by all its
  edges.
-/

namespace SceneLoop

/-- A set of points, told row by row: what is shared by a row is found once. -/
structure Region (ρ : Type) where
  /-- The row at a height. -/
  row : Float → ρ
  /-- Whether the point of a row at a distance to the right belongs to the set. -/
  holds : ρ → Float → Bool

/-- Whether a point belongs to the set. -/
def Region.contains {ρ : Type} (r : Region ρ) (x y : Float) : Bool :=
  r.holds (r.row y) x

namespace Coverage

/-- Where the sample points of a pixel lie, in each direction. -/
def samples : List Float := [0.125, 0.375, 0.625, 0.875]

variable {ρ : Type}

/-- The sample rows of a row of pixels. -/
@[inline] def rows (row : Float → ρ) (y : Nat) : List ρ :=
  samples.map fun d => row (Float.ofNat y + d)

/-- How many sample points of a pixel belong to a set. -/
@[specialize] def hits (holds : ρ → Float → Bool) (rows : List ρ) (x : Nat) : Nat :=
  rows.foldl (fun n row => n + samples.countP fun d => holds row (Float.ofNat x + d)) 0

/-- Paint one pixel in proportion to its sample points. -/
@[inline] def paintPixel (c : Color) (hits x y : Nat) (f : Frame) : Frame :=
  if 0 < hits then f.blendAt x y c (Float32.ofNat hits / 16) else f

/-- Paint some pixels of a row, from one of them to the right. -/
@[specialize] def paintRow (holds : ρ → Float → Bool) (c : Color) (rows : List ρ) (y : Nat) :
    Nat → Nat → Frame → Frame
  | 0, _, f => f
  | n + 1, x, f => paintRow holds c rows y n (x + 1) (paintPixel c (hits holds rows x) x y f)

/-- Paint some pixels of some rows, from one of them downwards. -/
@[specialize] def paintRows (row : Float → ρ) (holds : ρ → Float → Bool) (c : Color)
    (width x : Nat) : Nat → Nat → Frame → Frame
  | 0, _, f => f
  | n + 1, y, f =>
    paintRows row holds c width x n (y + 1) (paintRow holds c (rows row y) y width x f)

/-- The pixels that an extent meets: the first one, and how many there are before a limit. -/
def span (least greatest : Float) (limit : UInt32) : Nat × Nat :=
  let first := (Binary64.floorWord least).toNat
  let stop := min (-Binary64.floorWord (-greatest)).toNat limit.toNat
  (first, stop - first)

end Coverage

open Coverage in
/-- Paint a set of points over the part of a frame within an extent.  An extent that is not finite
leaves the frame as it is. -/
@[inline] def Frame.cover {ρ : Type} (f : Frame) (b : Bounds) (c : Color) (r : Region ρ) : Frame :=
  if b.isFinite then
    let (x, width) := span b.left b.right f.width
    let (y, height) := span b.top b.bottom f.height
    paintRows r.row r.holds c width x height y f
  else f

namespace Path

/-- How often some edges wind around a point. -/
def winding (edges : List Edge) (x y : Float) : Int :=
  edges.foldr (fun e n => e.turning x y + n) 0

/-- A row through the inside of an outline. -/
structure Row where
  /-- The height of the row. -/
  y : Float
  /-- The edges that cross it. -/
  edges : List Edge

/-- The points that an outline winds around. -/
@[inline] def interior (outline : List Edge) : Region Row where
  row y := ⟨y, outline.filter fun e => e.crosses y⟩
  holds row x := row.edges.foldl (fun n e => n + e.turning x row.y) 0 != 0

/-- The points within a distance of some edges. -/
@[inline] def ribbon (edges : List Edge) (half : Float) : Region Float where
  row y := y
  holds y x := edges.any fun e => e.distance x y ≤ half

/-- Adding up the turning of edges in order. -/
theorem foldl_turning (edges : List Edge) (x y : Float) (n : Int) :
    edges.foldl (fun n e => n + e.turning x y) n = n + winding edges x y := by
  induction edges generalizing n with
  | nil => simp [winding]
  | cons e rest ih => simp [ih, winding, Int.add_assoc]

/-- Edges that do not cross the height of a point may be left out. -/
theorem winding_filter_crosses (edges : List Edge) (x y : Float) :
    winding (edges.filter fun e => e.crosses y) x y = winding edges x y := by
  induction edges with
  | nil => rfl
  | cons e rest ih =>
    cases h : e.crosses y with
    | true => simp_all [winding]
    | false => simp_all [winding, Edge.turning_eq_zero h]

/-- The inside of an outline is where it winds around a point. -/
theorem interior_contains (outline : List Edge) (x y : Float) :
    (interior outline).contains x y = (winding outline x y != 0) := by
  simp only [Region.contains, interior, foldl_turning, winding_filter_crosses, Int.zero_add]

/-- Paint the inside of a path. -/
def fillOn (path : Path) (c : Color) (f : Frame) : Frame :=
  match Bounds.ofPoints? path.corners with
  | some b => f.cover b c (interior path.outline)
  | none => f

/-- Paint a ribbon along edges between some corners. -/
def strokeOn (corners : List Point) (edges : List Edge) (half : Float) (c : Color) (f : Frame) :
    Frame :=
  match Bounds.ofPoints? corners with
  | some b => f.cover (b.grow half) c (ribbon edges half)
  | none => f

end Path

end SceneLoop
