import SceneLoop.Proofs.Raster.Brackets
import SceneLoop.Proofs.Raster.Corners
import SceneLoop.Proofs.Raster.Regions

/-!
# Rectangles that are not finite

A rectangle is painted within the extent of its corners, of which only the coordinates that are
numbers count.  So an infinite one is not painted.  But if its far corner is nowhere to the right,
the left side remains, of all its sides, and the near corners have a finite extent: the rectangle is
painted as its left side alone would be.  In the same way the top side remains of an outline whose
far corner is nowhere downwards.

## Main definitions

* `Rect` : a rectangle as it lies in a frame.
* `Rect.left`, `Rect.top` : two of its sides.

## Main results

* `Rect.fillOn_corners_of_isNaN_x`, `Rect.strokeOn_corners_of_isNaN_x`,
  `Rect.strokeOn_corners_of_isNaN_y` : rectangles that paint as one of their sides.
* `Path.fillOn_line_eq_self`, `Path.strokeOn_line_eq_self` : lines that are not finite paint
  nothing.
* `Rect.fillOn_corners_of_not_isFinite`, `Rect.strokeOn_corners_of_not_isFinite` : what remains of a
  rectangle.
* `Canvas.frame_rect_of_not_finite` : what a rectangle that is not finite paints.
-/

namespace SceneLoop

open Binary64

/-! ### Lines -/

section Line

variable {p q : Point} (h : ¬(p.x.isFinite ∧ p.y.isFinite ∧ q.x.isFinite ∧ q.y.isFinite))

include h in
/-- A line that is not finite has a finite extent only if its edge has a coordinate that is not a
number. -/
theorem Bounds.IsExtent.isUndefined_line {b : Bounds} (hextent : b.IsExtent [p, q])
    (hb : b.isFinite) : (Edge.between p q).IsUndefined := by
  by_contra hedge
  simp only [Edge.IsUndefined, Edge.between, not_or, Bool.not_eq_true] at hedge
  obtain ⟨hpx, hpy, hqx, hqy⟩ := hedge
  exact h ⟨hextent.isFinite_x hb (by simp) hpx, hextent.isFinite_y hb (by simp) hpy,
    hextent.isFinite_x hb (by simp) hqx, hextent.isFinite_y hb (by simp) hqy⟩

include h in
/-- Filling a line that is not finite leaves the frame as it is. -/
theorem Path.fillOn_line_eq_self (c : Color) (f : Frame) : fillOn #[#[p, q]] c f = f := by
  rw [fillOn_singleton]
  refine fillWithin_eq_self c f fun b hb hfinite x y => ?_
  have hedge := (Bounds.isExtent_ofPoints? hb).isUndefined_line h hfinite
  exact winding_cons_of_isUndefined hedge [] x y

include h in
/-- Stroking a line that is not finite leaves the frame as it is. -/
theorem Path.strokeOn_line_eq_self (half : Float) (c : Color) (f : Frame) :
    strokeOn [p, q] [.between p q] half c f = f := by
  refine strokeOn_eq_self c f fun b hb hgrown x y => ?_
  have hedge := (Bounds.isExtent_ofPoints? hb).isUndefined_line h (Bounds.isFinite_of_grow hgrown)
  exact ribbon_contains_cons_of_isUndefined hedge [] half x y

end Line

/-! ### Rectangles in a frame -/

/-- A rectangle as it lies in a frame, given by two opposite corners. -/
structure Rect where
  /-- The corner that the rectangle is placed by. -/
  near : Point
  /-- The opposite corner. -/
  far : Point

namespace Rect

variable (r : Rect)

/-- The corners, from the one that the rectangle is placed by. -/
def corners : Subpath :=
  #[r.near, ⟨r.far.x, r.near.y⟩, r.far, ⟨r.near.x, r.far.y⟩]

/-- The left side, back to the corner that the rectangle is placed by. -/
def left : Subpath :=
  #[⟨r.near.x, r.far.y⟩, r.near]

/-- The top side, from the corner that the rectangle is placed by. -/
def top : Subpath :=
  #[r.near, ⟨r.far.x, r.near.y⟩]

/-- The edge along the top side. -/
def topEdge : Edge :=
  ⟨r.near.x, r.near.y, r.far.x, r.near.y⟩

/-- The edge along the right side. -/
def rightEdge : Edge :=
  ⟨r.far.x, r.near.y, r.far.x, r.far.y⟩

/-- The edge along the bottom side. -/
def bottomEdge : Edge :=
  ⟨r.far.x, r.far.y, r.near.x, r.far.y⟩

/-- The edge along the left side. -/
def leftEdge : Edge :=
  ⟨r.near.x, r.far.y, r.near.x, r.near.y⟩

theorem outline_corners :
    r.corners.outline = [r.topEdge, r.rightEdge, r.bottomEdge, r.leftEdge] :=
  rfl

theorem far_mem_corners : r.far ∈ r.corners.toList := by
  simp [corners]

variable {r} {P : Point → Prop}

theorem forall_corners : (∀ p ∈ r.corners.toList, P p) ↔
    P r.near ∧ P ⟨r.far.x, r.near.y⟩ ∧ P r.far ∧ P ⟨r.near.x, r.far.y⟩ := by
  simp [corners]

theorem forall_left : (∀ p ∈ r.left.toList, P p) ↔ P ⟨r.near.x, r.far.y⟩ ∧ P r.near := by
  simp [left]

theorem forall_top : (∀ p ∈ r.top.toList, P p) ↔ P r.near ∧ P ⟨r.far.x, r.near.y⟩ := by
  simp [top]

/-! ### A width that is not a number -/

section Width

variable (h : r.far.x.isNaN)

include h in
theorem ofPoints?_corners_of_isNaN_x :
    Bounds.ofPoints? r.corners.toList = Bounds.ofPoints? r.left.toList := by
  refine Bounds.ofPoints?_eq_of_isExtent nofun nofun fun b hb => ⟨?_, ?_, ?_, ?_⟩ <;> intro k
  · simp only [hb.left, forall_left, forall_corners, lowPlace_of_isNaN h, le_top]
    tauto
  · simp only [hb.top, forall_left, forall_corners]
    tauto
  · simp only [hb.right, forall_left, forall_corners, highPlace_of_isNaN h, bot_le]
    tauto
  · simp only [hb.bottom, forall_left, forall_corners]
    tauto

include h in
/-- All sides but the left one have a coordinate that is not a number. -/
theorem isUndefined_of_isNaN_x :
    r.topEdge.IsUndefined ∧ r.rightEdge.IsUndefined ∧ r.bottomEdge.IsUndefined :=
  ⟨.inr (.inr (.inl h)), .inl h, .inl h⟩

include h in
/-- The inside is painted as that of the left side. -/
theorem fillOn_corners_of_isNaN_x (c : Color) (f : Frame) :
    Path.fillOn #[r.corners] c f = Path.fillOn #[r.left] c f := by
  obtain ⟨htop, hright, hbottom⟩ := isUndefined_of_isNaN_x h
  have houtline (x y : Float) :
      Path.winding r.corners.outline x y = Path.winding r.left.edges x y := by
    rw [outline_corners, Path.winding_cons_of_isUndefined htop,
      Path.winding_cons_of_isUndefined hright, Path.winding_cons_of_isUndefined hbottom]
    rfl
  rw [Path.fillOn_singleton, Path.fillOn_singleton]
  exact Path.fillWithin_congr (ofPoints?_corners_of_isNaN_x h) houtline c f

include h in
/-- The outline is painted as the left side. -/
theorem strokeOn_corners_of_isNaN_x (half : Float) (c : Color) (f : Frame) :
    Path.strokeOn r.corners.toList r.corners.outline half c f =
      Path.strokeOn r.left.toList r.left.edges half c f := by
  obtain ⟨htop, hright, hbottom⟩ := isUndefined_of_isNaN_x h
  refine Path.strokeOn_congr (ofPoints?_corners_of_isNaN_x h) (fun x y => ?_) c f
  rw [outline_corners, Path.ribbon_contains_cons_of_isUndefined htop,
    Path.ribbon_contains_cons_of_isUndefined hright,
    Path.ribbon_contains_cons_of_isUndefined hbottom]
  rfl

end Width

/-! ### A height that is not a number -/

section Height

variable (h : r.far.y.isNaN)

include h in
theorem ofPoints?_corners_of_isNaN_y :
    Bounds.ofPoints? r.corners.toList = Bounds.ofPoints? r.top.toList := by
  refine Bounds.ofPoints?_eq_of_isExtent nofun nofun fun b hb => ⟨?_, ?_, ?_, ?_⟩ <;> intro k
  · simp only [hb.left, forall_top, forall_corners]
    tauto
  · simp only [hb.top, forall_top, forall_corners, lowPlace_of_isNaN h, le_top]
    tauto
  · simp only [hb.right, forall_top, forall_corners]
    tauto
  · simp only [hb.bottom, forall_top, forall_corners, highPlace_of_isNaN h, bot_le]
    tauto

include h in
/-- All sides but the top one have a coordinate that is not a number. -/
theorem isUndefined_of_isNaN_y :
    r.rightEdge.IsUndefined ∧ r.bottomEdge.IsUndefined ∧ r.leftEdge.IsUndefined :=
  ⟨.inr (.inr (.inr h)), .inr (.inl h), .inr (.inl h)⟩

include h in
/-- The outline does not wind around anything: the top side is level. -/
theorem winding_outline_of_isNaN_y (x y : Float) : Path.winding r.corners.outline x y = 0 := by
  obtain ⟨hright, hbottom, hleft⟩ := isUndefined_of_isNaN_y h
  rw [outline_corners, Path.winding_cons, Edge.turning_eq_zero_of_level rfl,
    Path.winding_cons_of_isUndefined hright, Path.winding_cons_of_isUndefined hbottom,
    Path.winding_cons_of_isUndefined hleft]
  rfl

include h in
/-- The outline is painted as the top side. -/
theorem strokeOn_corners_of_isNaN_y (half : Float) (c : Color) (f : Frame) :
    Path.strokeOn r.corners.toList r.corners.outline half c f =
      Path.strokeOn r.top.toList r.top.edges half c f := by
  obtain ⟨hright, hbottom, hleft⟩ := isUndefined_of_isNaN_y h
  refine Path.strokeOn_congr (ofPoints?_corners_of_isNaN_y h) (fun x y => ?_) c f
  rw [outline_corners, Path.ribbon_contains_cons, Path.ribbon_contains_cons_of_isUndefined hright,
    Path.ribbon_contains_cons_of_isUndefined hbottom,
    Path.ribbon_contains_cons_of_isUndefined hleft]
  exact Bool.or_false _

end Height

/-! ### Sides that are not finite -/

theorem fillOn_left_eq_self (h : ¬(r.near.x.isFinite ∧ r.far.y.isFinite)) (c : Color)
    (f : Frame) : Path.fillOn #[r.left] c f = f :=
  Path.fillOn_line_eq_self (p := ⟨r.near.x, r.far.y⟩) (fun hline => h ⟨hline.1, hline.2.1⟩) c f

theorem strokeOn_left_eq_self (h : ¬(r.near.x.isFinite ∧ r.far.y.isFinite)) (half : Float)
    (c : Color) (f : Frame) : Path.strokeOn r.left.toList r.left.edges half c f = f :=
  Path.strokeOn_line_eq_self (p := ⟨r.near.x, r.far.y⟩) (fun hline => h ⟨hline.1, hline.2.1⟩)
    half c f

theorem strokeOn_top_eq_self (h : ¬(r.near.y.isFinite ∧ r.far.x.isFinite)) (half : Float)
    (c : Color) (f : Frame) : Path.strokeOn r.top.toList r.top.edges half c f = f :=
  Path.strokeOn_line_eq_self (q := ⟨r.far.x, r.near.y⟩) (fun hline => h ⟨hline.2.1, hline.2.2.1⟩)
    half c f

section Ignored

variable (h : ¬(r.far.x.isFinite ∧ r.far.y.isFinite))

include h in
/-- If the width is a number, the inside of a rectangle that is not finite is not painted. -/
theorem fillOn_corners_eq_self (hx : r.far.x.isNaN = false) (c : Color) (f : Frame) :
    Path.fillOn #[r.corners] c f = f := by
  rw [Path.fillOn_singleton]
  refine Path.fillWithin_eq_self c f fun b hb hfinite => winding_outline_of_isNaN_y ?_
  have hextent : b.IsExtent r.corners.toList := Bounds.isExtent_ofPoints? hb
  by_contra hy
  exact h ⟨hextent.isFinite_x hfinite r.far_mem_corners hx,
    hextent.isFinite_y hfinite r.far_mem_corners (Bool.eq_false_iff.2 hy)⟩

include h in
/-- If the width and the height are numbers, the outline of a rectangle that is not finite is not
painted. -/
theorem strokeOn_corners_eq_self (hx : r.far.x.isNaN = false) (hy : r.far.y.isNaN = false)
    (half : Float) (c : Color) (f : Frame) :
    Path.strokeOn r.corners.toList r.corners.outline half c f = f := by
  refine Path.strokeOn_eq_self c f fun b hb hgrown => absurd ?_ h
  have hextent := Bounds.isExtent_ofPoints? hb
  have hfinite := Bounds.isFinite_of_grow hgrown
  exact ⟨hextent.isFinite_x hfinite r.far_mem_corners hx,
    hextent.isFinite_y hfinite r.far_mem_corners hy⟩

variable {P Q : Prop} [Decidable P] [Decidable Q]

include h in
/-- The inside of a rectangle that is not finite: that of the left side, as far as it is finite. -/
theorem fillOn_corners_of_not_isFinite (hleft : r.near.x.isFinite ∧ r.far.y.isFinite → P)
    (c : Color) (f : Frame) :
    Path.fillOn #[r.corners] c f =
      if r.far.x.isNaN ∧ P then Path.fillOn #[r.left] c f else f := by
  by_cases hx : r.far.x.isNaN
  · rw [fillOn_corners_of_isNaN_x hx]
    split
    · rfl
    · next hignored => exact fillOn_left_eq_self (fun hfinite => hignored ⟨hx, hleft hfinite⟩) c f
  · rw [if_neg fun hboth => hx hboth.1]
    exact fillOn_corners_eq_self h (Bool.eq_false_iff.2 hx) c f

include h in
/-- The outline of a rectangle that is not finite: the left side or the top one, as far as it is
finite. -/
theorem strokeOn_corners_of_not_isFinite (hleft : r.near.x.isFinite ∧ r.far.y.isFinite → P)
    (htop : r.near.y.isFinite ∧ r.far.x.isFinite → Q) (half : Float) (c : Color) (f : Frame) :
    Path.strokeOn r.corners.toList r.corners.outline half c f =
      if r.far.x.isNaN ∧ P then Path.strokeOn r.left.toList r.left.edges half c f
      else if r.far.y.isNaN ∧ Q then Path.strokeOn r.top.toList r.top.edges half c f
      else f := by
  by_cases hx : r.far.x.isNaN
  · rw [strokeOn_corners_of_isNaN_x hx]
    split
    · rfl
    · next hignored =>
      -- The left side is not finite, and the top one has no end.
      have hend : ¬(r.near.y.isFinite ∧ r.far.x.isFinite) := fun hfinite =>
        Bool.eq_false_iff.1 (isNaN_of_isFinite hfinite.2) hx
      rw [strokeOn_left_eq_self fun hfinite => hignored ⟨hx, hleft hfinite⟩,
        strokeOn_top_eq_self hend, ite_self]
  · rw [if_neg fun hboth => hx hboth.1]
    by_cases hy : r.far.y.isNaN
    · rw [strokeOn_corners_of_isNaN_y hy]
      split
      · rfl
      · next hignored =>
        exact strokeOn_top_eq_self (fun hfinite => hignored ⟨hy, htop hfinite⟩) half c f
    · rw [if_neg fun hboth => hy hboth.1]
      exact strokeOn_corners_eq_self h (Bool.eq_false_iff.2 hx) (Bool.eq_false_iff.2 hy) half c f

end Ignored

end Rect

/-! ### Rectangles on a canvas -/

namespace Pen

variable {pen : Pen} {scale x y width height : Float}

/-- Where a rectangle lies in a frame. -/
def rect (pen : Pen) (scale x y width height : Float) : Rect :=
  ⟨pen.toDevice scale x y, pen.toDevice scale (x + width) (y + height)⟩

theorem isFinite_of_toDevice_x (h : (pen.toDevice scale x y).x.isFinite) : x.isFinite :=
  (isFinite_of_add (isFinite_of_mul h).1).1

theorem isFinite_of_toDevice_y (h : (pen.toDevice scale x y).y.isFinite) : y.isFinite :=
  (isFinite_of_add (isFinite_of_mul h).1).1

theorem isNaN_toDevice_x (hscale : 0 < scale) (hfinite : scale.isFinite)
    (hdx : pen.dx.isFinite) : (pen.toDevice scale x y).x.isNaN ↔ x.isNaN := by
  rw [toDevice, isNaN_mul_iff hscale hfinite, isNaN_add_right hdx]

theorem isNaN_toDevice_y (hscale : 0 < scale) (hfinite : scale.isFinite)
    (hdy : pen.dy.isFinite) : (pen.toDevice scale x y).y.isNaN ↔ y.isNaN := by
  rw [toDevice, isNaN_mul_iff hscale hfinite, isNaN_add_right hdy]

/-- The left side is finite only if the place and the height are. -/
theorem isFinite_of_rect_left
    (h : (pen.rect scale x y width height).near.x.isFinite ∧
      (pen.rect scale x y width height).far.y.isFinite) :
    x.isFinite ∧ y.isFinite ∧ height.isFinite :=
  ⟨isFinite_of_toDevice_x h.1, isFinite_of_add (isFinite_of_toDevice_y h.2)⟩

/-- The top side is finite only if the place and the width are. -/
theorem isFinite_of_rect_top
    (h : (pen.rect scale x y width height).near.y.isFinite ∧
      (pen.rect scale x y width height).far.x.isFinite) :
    x.isFinite ∧ y.isFinite ∧ width.isFinite := by
  obtain ⟨hx, hwidth⟩ := isFinite_of_add (isFinite_of_toDevice_x h.2)
  exact ⟨hx, isFinite_of_toDevice_y h.1, hwidth⟩

end Pen

namespace Canvas

/-- **Rectangles that are not finite.** A rectangle whose place or size is not finite leaves the
frame as it is, unless a coordinate of its far corner is not a number and all other numbers are
finite.  If the far corner is nowhere to the right, what lies on one side of its left side is
painted, or the left side as an outline; if it is nowhere downwards, the top side is painted as an
outline, and nothing as an inside.  At a positive finite scale, from a finite origin and a finite
place, the far corner is nowhere exactly if the size is not a number. -/
theorem frame_rect_of_not_finite (s : Canvas) {x y width height : Float}
    (h : ¬(x.isFinite ∧ y.isFinite ∧ width.isFinite ∧ height.isFinite)) :
    let r := s.pen.rect s.scale x y width height
    (s.apply (.fillRect x y width height)).1.frame =
        (if r.far.x.isNaN ∧ x.isFinite ∧ y.isFinite ∧ height.isFinite then
          (s.paintInside #[r.left]).frame
        else s.frame) ∧
      (s.apply (.strokeRect x y width height)).1.frame =
        (if r.far.x.isNaN ∧ x.isFinite ∧ y.isFinite ∧ height.isFinite then
          (s.paintOutline r.left.toList r.left.edges).frame
        else if r.far.y.isNaN ∧ x.isFinite ∧ y.isFinite ∧ width.isFinite then
          (s.paintOutline r.top.toList r.top.edges).frame
        else s.frame) ∧
      (0 < s.scale → s.scale.isFinite →
        (x.isFinite → s.pen.dx.isFinite → (r.far.x.isNaN ↔ width.isNaN)) ∧
          (y.isFinite → s.pen.dy.isFinite → (r.far.y.isNaN ↔ height.isNaN))) := by
  intro r
  have hfar : ¬(r.far.x.isFinite ∧ r.far.y.isFinite) := by
    rintro ⟨hx, hy⟩
    obtain ⟨hx, hwidth⟩ := isFinite_of_add (Pen.isFinite_of_toDevice_x hx)
    obtain ⟨hy, hheight⟩ := isFinite_of_add (Pen.isFinite_of_toDevice_y hy)
    exact h ⟨hx, hy, hwidth, hheight⟩
  refine ⟨?_, ?_, fun hscale hfinite => ⟨fun hx hdx => ?_, fun hy hdy => ?_⟩⟩
  · exact Rect.fillOn_corners_of_not_isFinite hfar Pen.isFinite_of_rect_left _ _
  · exact Rect.strokeOn_corners_of_not_isFinite hfar Pen.isFinite_of_rect_left
      Pen.isFinite_of_rect_top _ _ _
  · exact (Pen.isNaN_toDevice_x hscale hfinite hdx).trans (by rw [isNaN_add_left hx])
  · exact (Pen.isNaN_toDevice_y hscale hfinite hdy).trans (by rw [isNaN_add_left hy])

/-- A rectangle of infinite width is not painted. -/
theorem frame_rect_infinite :
    let s := Canvas.blank (.fit ⟨1, 1⟩ 1 ⟨1, 1⟩) .white .empty
    ¬((0.5 : Float).isFinite ∧ (0 : Float).isFinite ∧ infinity.isFinite ∧ (1 : Float).isFinite) ∧
      (s.apply (.fillRect 0.5 0 infinity 1)).1.frame = s.frame ∧
      (s.apply (.strokeRect 0.5 0 infinity 1)).1.frame = s.frame := by
  intro s
  have h : ¬((0.5 : Float).isFinite ∧ (0 : Float).isFinite ∧ infinity.isFinite ∧
      (1 : Float).isFinite) := by decide +kernel
  have hx : (s.pen.rect s.scale 0.5 0 infinity 1).far.x.isNaN = false := by decide +kernel
  have hy : (s.pen.rect s.scale 0.5 0 infinity 1).far.y.isNaN = false := by decide +kernel
  obtain ⟨hfill, hstroke, -⟩ := s.frame_rect_of_not_finite h
  simp only [hx, hy, Bool.false_eq_true, false_and, if_false] at hfill hstroke
  exact ⟨h, hfill, hstroke⟩

/-- Rectangles whose width is not a number are painted, as outlines whose height is not a number
are. -/
theorem frame_rect_undefined :
    let s := Canvas.blank (.fit ⟨1, 1⟩ 1 ⟨1, 1⟩) .white .empty
    (s.apply (.fillRect 0.5 0 notANumber 1)).1.frame ≠ s.frame ∧
      (s.apply (.strokeRect 0.5 0 notANumber 1)).1.frame ≠ s.frame ∧
      (s.apply (.strokeRect 0 0.5 1 notANumber)).1.frame ≠ s.frame := by
  intro s
  have hdiffers {t : Canvas} (h : t.frame.pixel? 0 0 ≠ s.frame.pixel? 0 0) :
      t.frame ≠ s.frame := fun heq => h (by rw [heq])
  exact ⟨hdiffers (by decide +kernel), hdiffers (by decide +kernel), hdiffers (by decide +kernel)⟩

end Canvas

end SceneLoop
