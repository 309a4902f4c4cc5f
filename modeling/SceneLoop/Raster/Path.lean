import SceneLoop.Viewport

/-!
# Paths

A path is a list of subpaths, and a subpath a list of corners joined by straight edges.  Arcs are
flattened when they are added.

## Main definitions

* `Edge`, `Edge.turning`, `Edge.distance` : how an edge lies to a point.
* `Subpath.edges`, `Subpath.outline` : the edges of a subpath, left open or closed.
* `Path` : adding corners and arcs.
* `Bounds` : the extent of some corners.

## Main results

* `Edge.turning_eq_zero` : an edge that does not cross the height of a point has no part in how
  often the outline winds around it.
-/

namespace SceneLoop

/-- A straight edge, with a direction. -/
structure Edge where
  /-- Where the edge starts, to the right. -/
  x₀ : Float
  /-- Where the edge starts, downwards. -/
  y₀ : Float
  /-- Where the edge ends, to the right. -/
  x₁ : Float
  /-- Where the edge ends, downwards. -/
  y₁ : Float

namespace Edge

/-- The edge from one point to another. -/
def between (a b : Point) : Edge :=
  ⟨a.x, a.y, b.x, b.y⟩

/-- Positive on one side of the line through the edge, negative on the other. -/
def side (e : Edge) (x y : Float) : Float :=
  (e.x₁ - e.x₀) * (y - e.y₀) - (x - e.x₀) * (e.y₁ - e.y₀)

/-- Whether the edge crosses a height downwards. -/
def descends (e : Edge) (y : Float) : Bool :=
  e.y₀ ≤ y && y < e.y₁

/-- Whether the edge crosses a height upwards. -/
def ascends (e : Edge) (y : Float) : Bool :=
  !(e.y₀ ≤ y) && e.y₁ ≤ y

/-- Whether the edge crosses a height. -/
def crosses (e : Edge) (y : Float) : Bool :=
  e.descends y || e.ascends y

/-- The part of the edge in how often an outline winds around a point. -/
def turning (e : Edge) (x y : Float) : Int :=
  if e.descends y && 0 < e.side x y then 1
  else if e.ascends y && e.side x y < 0 then -1
  else 0

/-- An edge that does not cross the height of a point does not turn around it. -/
theorem turning_eq_zero {e : Edge} {y : Float} (h : e.crosses y = false) (x : Float) :
    e.turning x y = 0 := by
  simp only [crosses, Bool.or_eq_false_iff] at h
  simp [turning, h.1, h.2]

/-- The distance of a point from the nearest point of the edge. -/
def distance (e : Edge) (x y : Float) : Float :=
  let dx := e.x₁ - e.x₀
  let dy := e.y₁ - e.y₀
  let square := dx * dx + dy * dy
  let t := if 0 < square then
      Binary64.clamp (((x - e.x₀) * dx + (y - e.y₀) * dy) / square) 0 1
    else 0
  let across := x - (e.x₀ + t * dx)
  let along := y - (e.y₀ + t * dy)
  (across * across + along * along).sqrt

end Edge

/-- The corners of a line, in order. -/
abbrev Subpath := Array Point

namespace Subpath

/-- The edges between neighbours. -/
def joined : List Point → List Edge
  | a :: b :: rest => .between a b :: joined (b :: rest)
  | _ => []

/-- The edge from the last corner back to the first, if there are more than two corners. -/
def closing (s : Subpath) : List Edge :=
  match s[0]?, s.back? with
  | some first, some last => if 2 < s.size then [.between last first] else []
  | _, _ => []

/-- The edges of the line as it is. -/
def edges (s : Subpath) : List Edge :=
  joined s.toList

/-- The edges of the closed line. -/
def outline (s : Subpath) : List Edge :=
  s.edges ++ s.closing

end Subpath

/-- Subpaths in the order in which they were begun. -/
abbrev Path := Array Subpath

namespace Path

/-- Begin a subpath. -/
def begin (path : Path) (corners : Subpath) : Path :=
  path.push corners

/-- Continue the last subpath, or begin the first one. -/
def extend (path : Path) (corners : Subpath) : Path :=
  if path.isEmpty then path.begin corners
  else path.modify (path.size - 1) (· ++ corners)

/-- The corners of all subpaths. -/
def corners (path : Path) : List Point :=
  path.toList.flatMap Array.toList

/-- The edges of all subpaths as they are. -/
def edges (path : Path) : List Edge :=
  path.toList.flatMap Subpath.edges

/-- The edges of all subpaths, each one closed. -/
def outline (path : Path) : List Edge :=
  path.toList.flatMap Subpath.outline

end Path

/-- An arc of a circle, from one angle to another. -/
structure Arc where
  /-- The center. -/
  center : Point
  /-- The radius. -/
  radius : Float
  /-- The angle where the arc starts. -/
  start : Float
  /-- The angle where the arc ends. -/
  finish : Float

namespace Arc

/-- Whether all numbers are finite. -/
def isFinite (a : Arc) : Bool :=
  a.center.x.isFinite && a.center.y.isFinite && a.radius.isFinite && a.start.isFinite &&
    a.finish.isFinite

/-- The angle that is swept, at most a full turn either way. -/
def sweep (a : Arc) : Float :=
  Binary64.clamp (a.finish - a.start) (-Binary64.fullTurn) Binary64.fullTurn

/-- How many edges stand for the arc at a resolution: one for every two pixels of its length, at
least 8 and at most 720. -/
def pieces (a : Arc) (scale : Float) : Nat :=
  (Binary64.clamp (Binary64.ceil (a.radius * scale * a.sweep.abs / 2)) 8 720).toUInt64.toNat

/-- The point of the circle at an angle. -/
def pointAt (a : Arc) (angle : Float) : Point :=
  ⟨a.center.x + a.radius * angle.cos, a.center.y + a.radius * angle.sin⟩

/-- The corners that stand for the arc at a resolution. -/
def corners (a : Arc) (scale : Float) : List Point :=
  let n := a.pieces scale
  (List.range (n + 1)).map fun i =>
    a.pointAt (a.start + a.sweep * Float.ofNat i / Float.ofNat n)

end Arc

/-- An extent in both directions. -/
structure Bounds where
  /-- The least distance to the right. -/
  left : Float
  /-- The least distance downwards. -/
  top : Float
  /-- The greatest distance to the right. -/
  right : Float
  /-- The greatest distance downwards. -/
  bottom : Float

namespace Bounds

/-- The extent of one point. -/
def ofPoint (p : Point) : Bounds :=
  ⟨p.x, p.y, p.x, p.y⟩

/-- Take one more point into an extent. -/
def insert (b : Bounds) (p : Point) : Bounds :=
  ⟨Binary64.smaller b.left p.x, Binary64.smaller b.top p.y, Binary64.larger b.right p.x,
    Binary64.larger b.bottom p.y⟩

/-- The extent of some points. -/
def ofPoints? : List Point → Option Bounds
  | [] => none
  | p :: rest => some (rest.foldl insert (ofPoint p))

/-- Move all four sides outwards. -/
def grow (b : Bounds) (pad : Float) : Bounds :=
  ⟨b.left - pad, b.top - pad, b.right + pad, b.bottom + pad⟩

/-- Whether all four sides are finite. -/
def isFinite (b : Bounds) : Bool :=
  b.left.isFinite && b.top.isFinite && b.right.isFinite && b.bottom.isFinite

end Bounds

end SceneLoop
