import SceneLoop.Proofs.Raster.Brackets
import SceneLoop.Proofs.Raster.Corners
import SceneLoop.Proofs.Raster.Regions

/-!
# Closed subpaths

Filling a path closes each of its subpaths, as if its first corner stood once more at its end, if it
has one corner or more than two.  A subpath of two corners is left open: closed, it would have the
edge back from the second corner to the first as well.

## Main definitions

* `Subpath.closed`, `Path.closed` : the first corner of each subpath once more at its end.
* `Path.returns` : the edges back of the subpaths of two corners.

## Main results

* `Subpath.winding_closed` : how often a closed subpath winds around a point.
* `Canvas.frame_fill_closed` : what filling closed subpaths paints.
-/

namespace SceneLoop

/-! ### Subpaths -/

namespace Subpath

/-- The line with its first corner once more at its end. -/
def closed (s : Subpath) : Subpath :=
  match s[0]? with
  | some first => s.push first
  | none => s

/-- The edge back from the second corner, if there are two corners. -/
def returns (s : Subpath) : List Edge :=
  match s.toList with
  | [a, b] => [.between b a]
  | _ => []

/-- One more corner adds the edge from the last one. -/
theorem joined_concat {ps : List Point} {last : Point} (h : ps.getLast? = some last)
    (p : Point) : joined (ps ++ [p]) = joined ps ++ [.between last p] := by
  induction ps with
  | nil => cases h
  | cons a rest ih =>
    cases rest with
    | nil =>
      cases h
      rfl
    | cons b rest =>
      rw [List.getLast?_cons_cons] at h
      simp only [List.cons_append, joined]
      exact congrArg _ (ih h)

theorem closed_toArray (a : Point) (rest : List Point) :
    closed (a :: rest).toArray = (a :: rest ++ [a]).toArray := by
  simp [closed]

theorem closing_toArray {a last : Point} {rest : List Point}
    (h : (a :: rest).getLast? = some last) :
    closing (a :: rest).toArray = if 2 < rest.length + 1 then [.between last a] else [] := by
  simp [closing, h]

/-- An edge without extent takes no part. -/
theorem turning_between_self (a : Point) (x y : Float) : (Edge.between a a).turning x y = 0 :=
  Edge.turning_eq_zero_of_level rfl x y

/-- A line that ends where it begins has the edge between its ends, and is closed by an edge without
extent. -/
theorem winding_outline_closed {a last : Point} {rest : List Point}
    (h : (a :: rest).getLast? = some last) (x y : Float) :
    Path.winding (closed (a :: rest).toArray).outline x y =
      Path.winding (joined (a :: rest)) x y + (Edge.between last a).turning x y := by
  have hclosing : Path.winding (closing (a :: rest ++ [a]).toArray) x y = 0 := by
    have hends : (a :: (rest ++ [a])).getLast? = some a := by
      rw [← List.cons_append, List.getLast?_concat]
    rw [List.cons_append, closing_toArray hends]
    split
    · rw [Path.winding_singleton, turning_between_self]
    · rfl
  rw [closed_toArray, outline, Path.winding_append, hclosing, edges, List.toList_toArray,
    joined_concat h, Path.winding_append, Path.winding_singleton, Int.add_zero]

/-- A line has the edge between its ends too: one corner has it without extent, two corners have it
as the edge back, and more are closed by it. -/
theorem winding_outline {a last : Point} {rest : List Point}
    (h : (a :: rest).getLast? = some last) (x y : Float) :
    Path.winding (outline (a :: rest).toArray ++ returns (a :: rest).toArray) x y =
      Path.winding (joined (a :: rest)) x y + (Edge.between last a).turning x y := by
  rw [outline, closing_toArray h, edges, List.toList_toArray]
  match rest with
  | [] =>
    obtain rfl : a = last := Option.some_inj.1 h
    rw [turning_between_self]
    rfl
  | [b] =>
    obtain rfl : b = last := Option.some_inj.1 h
    rw [Path.winding_append, if_neg (by simp), List.append_nil]
    exact congrArg _ (Path.winding_singleton _ x y)
  | b :: b' :: rest =>
    rw [Path.winding_append, Path.winding_append, if_pos (by simp), Path.winding_singleton]
    exact Int.add_zero _

/-- How often a closed line winds around a point: as often as the outline, with the edge back if
there are two corners. -/
theorem winding_closed (s : Subpath) (x y : Float) :
    Path.winding s.closed.outline x y = Path.winding (s.outline ++ s.returns) x y := by
  obtain ⟨ps⟩ := s
  cases ps with
  | nil => rfl
  | cons a rest =>
    obtain ⟨last, hlast⟩ : ∃ last, (a :: rest).getLast? = some last :=
      ⟨_, List.getLast?_eq_some_getLast (List.cons_ne_nil a rest)⟩
    exact (winding_outline_closed hlast x y).trans (winding_outline hlast x y).symm

end Subpath

/-! ### Paths -/

namespace Path

/-- The path with the first corner of each subpath once more at its end. -/
def closed (path : Path) : Path :=
  path.map Subpath.closed

/-- The edges back of the subpaths of two corners. -/
def returns (path : Path) : List Edge :=
  path.toList.flatMap Subpath.returns

theorem mem_corners_closed (path : Path) (p : Point) :
    p ∈ path.closed.corners ↔ p ∈ path.corners := by
  have hmem (s : Subpath) : p ∈ s.closed ↔ p ∈ s := by
    rw [Subpath.closed]
    split
    · next first hfirst =>
      rw [Array.mem_push, or_iff_left_of_imp]
      rintro rfl
      exact Array.mem_of_getElem? hfirst
    · rfl
  simp [corners, closed, hmem]

theorem winding_closed (path : Path) (x y : Float) :
    winding path.closed.outline x y = winding (path.outline ++ path.returns) x y := by
  simp only [outline, returns, closed, Array.toList_map]
  induction path.toList with
  | nil => rfl
  | cons s rest ih =>
    have hs := s.winding_closed x y
    simp only [List.map_cons, List.flatMap_cons, winding_append] at ih hs ⊢
    omega

theorem fillOn_closed (path : Path) (c : Color) (f : Frame) :
    path.closed.fillOn c f = fillWithin path.corners (path.outline ++ path.returns) c f :=
  fillWithin_congr (Bounds.ofPoints?_congr path.mem_corners_closed) path.winding_closed c f

theorem returns_eq_nil {path : Path} (h : ∀ s ∈ path, s.size ≠ 2) : path.returns = [] := by
  refine List.flatMap_eq_nil_iff.2 fun s hs => ?_
  rw [Subpath.returns]
  split
  · next a b hab => exact absurd (congrArg List.length hab) (h s (Array.mem_toList_iff.1 hs))
  · rfl

end Path

namespace Canvas

/-- **Filling closes subpaths.** Filling a path, each of whose subpaths is closed by its first
corner, paints what its outline winds around together with the edges back of the subpaths of two
corners, which are not closed without that.  If no subpath has two corners, it paints the same frame
as filling the path itself. -/
theorem frame_fill_closed (s : Canvas) :
    ((s.trace Path.closed).apply .fill).1.frame =
        Path.fillWithin s.path.corners (s.path.outline ++ s.path.returns) (s.pen.shade s.pen.fill)
          s.frame ∧
      ((∀ p ∈ s.path, p.size ≠ 2) →
        ((s.trace Path.closed).apply .fill).1.frame = (s.apply .fill).1.frame) := by
  have hclosed := s.path.fillOn_closed (s.pen.shade s.pen.fill) s.frame
  refine ⟨hclosed, fun h => ?_⟩
  rw [Path.returns_eq_nil h, List.append_nil] at hclosed
  exact hclosed

/-- Closing a triangle by its first corner changes nothing. -/
theorem frame_fill_triangle :
    let s := Surface.applyEach [.moveTo 0 0, .lineTo 4 0, .lineTo 0 4]
      (Canvas.blank (.fit ⟨4, 4⟩ 1 ⟨1, 1⟩) .white .empty)
    (∀ p ∈ s.path, p.size ≠ 2) ∧
      ((s.trace Path.closed).apply .fill).1.frame = (s.apply .fill).1.frame := by
  intro s
  have hcorners : ∀ p ∈ s.path, p.size ≠ 2 := by decide +kernel
  exact ⟨hcorners, s.frame_fill_closed.2 hcorners⟩

/-- Filling a line between two corners paints what lies on one side of it, unless the line is
closed. -/
theorem frame_fill_line :
    let s := Surface.applyEach [.moveTo 0 0, .lineTo 1 1]
      (Canvas.blank (.fit ⟨1, 1⟩ 1 ⟨1, 1⟩) .white .empty)
    ((s.trace Path.closed).apply .fill).1.frame ≠ (s.apply .fill).1.frame := by
  intro s heq
  have hclosed : ((s.trace Path.closed).apply .fill).1.frame.pixel? 0 0 =
      some ⟨255, 255, 255, 255⟩ := by decide +kernel
  have hopen : (s.apply .fill).1.frame.pixel? 0 0 = some ⟨159, 159, 159, 255⟩ := by
    decide +kernel
  rw [heq, hopen] at hclosed
  exact absurd hclosed (by decide)

end Canvas

end SceneLoop
