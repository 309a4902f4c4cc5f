import SceneLoop.Glyph.FontBook
import SceneLoop.Raster.Coverage

/-!
# Painting keeps the extent of a frame

Whatever is painted, a frame keeps its width, its height and the number of its bytes.  So filling a
frame that was whole gives a frame of one color again, whatever was painted before.

## Main definitions

* `Frame.SameExtent` : frames with the same width, height and number of bytes.
* `Frame.blendExact` : painting at a position that may be any pair of integers.

## Main results

* `Frame.sameExtent_cover`, `FontBook.sameExtent_drawLine` : painting keeps the extent.
* `Frame.blendExact_of_outside` : painting outside a frame.
* `Frame.fill_eq_solid` : filling a whole frame.
-/

namespace SceneLoop

namespace Frame

/-- Frames with the same width, height and number of bytes. -/
structure SameExtent (f g : Frame) : Prop where
  width : f.width = g.width
  height : f.height = g.height
  size : f.data.size = g.data.size

namespace SameExtent

theorem refl (f : Frame) : f.SameExtent f :=
  ⟨rfl, rfl, rfl⟩

theorem symm {f g : Frame} (h : f.SameExtent g) : g.SameExtent f :=
  ⟨h.width.symm, h.height.symm, h.size.symm⟩

theorem trans {f g h : Frame} (hfg : f.SameExtent g) (hgh : g.SameExtent h) : f.SameExtent h :=
  ⟨hfg.width.trans hgh.width, hfg.height.trans hgh.height, hfg.size.trans hgh.size⟩

theorem isWhole {f g : Frame} (h : f.SameExtent g) (hg : g.IsWhole) : f.IsWhole := by
  rw [IsWhole, pixelCount, h.size, h.width, h.height]
  exact hg

end SameExtent

theorem sameExtent_blendAt (f : Frame) (x y : Nat) (c : Color) (coverage : Float32) :
    (f.blendAt x y c coverage).SameExtent f :=
  ⟨width_blendAt f x y c coverage, height_blendAt f x y c coverage,
    size_data_blendAt f x y c coverage⟩

theorem sameExtent_blend (f : Frame) (x y : Int64) (c : Color) (coverage : Float32) :
    (f.blend x y c coverage).SameExtent f := by
  rw [blend]
  split
  · exact sameExtent_blendAt f _ _ c coverage
  · exact .refl f

theorem hasPixel_iff {f : Frame} {x y : Nat} :
    f.hasPixel x y ↔ x < f.width.toNat ∧ y < f.height.toNat := by
  rw [hasPixel, Bool.and_eq_true, decide_eq_true_iff, decide_eq_true_iff]

/-- Paint a color over the pixel at a position that may be any pair of integers. -/
def blendExact (f : Frame) (x y : Int) (c : Color) (coverage : Float32) : Frame :=
  if 0 ≤ x ∧ 0 ≤ y then f.blendAt x.toNat y.toNat c coverage else f

theorem blend_eq_blendExact (f : Frame) (x y : Int64) (c : Color) (coverage : Float32) :
    f.blend x y c coverage = f.blendExact x.toInt y.toInt c coverage := by
  simp only [blend, blendExact, Int64.le_iff_toInt_le, Int64.toInt_zero, Int64.toNat_toInt]

/-- Painting outside a frame leaves it as it is. -/
theorem blendExact_of_outside (f : Frame) {x y : Int}
    (h : ¬(0 ≤ x ∧ x < f.width.toNat ∧ 0 ≤ y ∧ y < f.height.toNat)) (c : Color)
    (coverage : Float32) : f.blendExact x y c coverage = f := by
  rw [blendExact]
  split
  · have hpixel : ¬f.hasPixel x.toNat y.toNat := by
      rw [hasPixel_iff]
      omega
    exact if_neg hpixel
  · rfl

end Frame

/-! ### Sets of points -/

namespace Coverage

variable {ρ : Type} (holds : ρ → Float → Bool) (c : Color)

theorem sameExtent_paintPixel (hits x y : Nat) (f : Frame) :
    (paintPixel c hits x y f).SameExtent f := by
  rw [paintPixel]
  split
  · exact Frame.sameExtent_blendAt f x y c _
  · exact .refl f

theorem sameExtent_paintRow (rows : List ρ) (y n x : Nat) (f : Frame) :
    (paintRow holds c rows y n x f).SameExtent f := by
  induction n generalizing x f with
  | zero => exact .refl f
  | succ n ih => exact (ih (x + 1) _).trans (sameExtent_paintPixel c _ x y f)

theorem sameExtent_paintRows (row : Float → ρ) (width x n y : Nat) (f : Frame) :
    (paintRows row holds c width x n y f).SameExtent f := by
  induction n generalizing y f with
  | zero => exact .refl f
  | succ n ih => exact (ih (y + 1) _).trans (sameExtent_paintRow holds c _ y width x f)

end Coverage

theorem Frame.sameExtent_cover {ρ : Type} (f : Frame) (b : Bounds) (c : Color) (r : Region ρ) :
    (f.cover b c r).SameExtent f := by
  rw [cover]
  split
  · exact Coverage.sameExtent_paintRows r.holds c r.row _ _ _ _ f
  · exact .refl f

theorem Path.sameExtent_fillOn (path : Path) (c : Color) (f : Frame) :
    (path.fillOn c f).SameExtent f := by
  rw [fillOn]
  split
  · exact f.sameExtent_cover _ c _
  · exact .refl f

theorem Path.sameExtent_strokeOn (corners : List Point) (edges : List Edge) (half : Float)
    (c : Color) (f : Frame) : (strokeOn corners edges half c f).SameExtent f := by
  rw [strokeOn]
  split
  · exact f.sameExtent_cover _ c _
  · exact .refl f

/-! ### Texts -/

/-- Painting some number of times keeps the extent if painting once does. -/
theorem Frame.sameExtent_fold (n : Nat) (change : (i : Nat) → i < n → Frame → Frame)
    (h : ∀ i hi f, (change i hi f).SameExtent f) (f : Frame) :
    (Nat.fold n change f).SameExtent f := by
  induction n generalizing f with
  | zero => exact .refl f
  | succ n ih =>
    rw [Nat.fold_succ]
    exact (h n _ _).trans (ih (fun i hi => change i (Nat.lt_succ_of_lt hi)) (fun i hi => h i _) f)

namespace Glyph

theorem sameExtent_paintAt (g : Glyph) (c : Color) (origin : Int64 × Int64) (column row : Nat)
    (f : Frame) : (g.paintAt c origin column row f).SameExtent f := by
  simp only [paintAt]
  split
  · exact .refl f
  · exact f.sameExtent_blend _ _ c _

theorem sameExtent_paint (g : Glyph) (c : Color) (origin : Int64 × Int64) (f : Frame) :
    (g.paint c origin f).SameExtent f :=
  Frame.sameExtent_fold _ _ (fun _ _ f => Frame.sameExtent_fold _ _
    (fun _ _ f => g.sameExtent_paintAt c origin _ _ f) f) f

end Glyph

theorem Face.sameExtent_drawLine (face : Face) (size : Float32) (c : Color) (penY : Float32)
    (text : List Char) (penX : Float32) (f : Frame) :
    (face.drawLine size c penY text penX f).SameExtent f := by
  induction text generalizing penX f with
  | nil => exact .refl f
  | cons letter rest ih => exact (ih _ _).trans (Glyph.sameExtent_paint _ c _ f)

theorem FontBook.sameExtent_drawLine (book : FontBook) (family text : String)
    (size penX penY : Float32) (c : Color) (f : Frame) :
    (book.drawLine family text size penX penY c f).SameExtent f := by
  rw [drawLine]
  split
  · exact Face.sameExtent_drawLine _ size c penY _ penX f
  · exact .refl f

/-! ### Frames of one color -/

namespace Frame

theorem size_pushPixels (p : Pixel) (n : Nat) (data : ByteArray) :
    (pushPixels p n data).size = data.size + 4 * n := by
  induction n generalizing data with
  | zero => rfl
  | succ n ih =>
    rw [pushPixels, ih]
    simp only [ByteArray.size_push]
    omega

/-- A frame of one color is whole. -/
theorem isWhole_solid (width height : UInt32) (c : Color) : (solid width height c).IsWhole := by
  rw [IsWhole, solid, size_pushPixels]
  exact Nat.zero_add _

theorem sameExtent_fill (f : Frame) (c : Color) : (f.fill c).SameExtent f := by
  refine ⟨rfl, rfl, ?_⟩
  simp only [fill, ByteArray.size_append, size_pushPixels, ByteArray.size_empty,
    ByteArray.size_extract]
  omega

/-- Filling a whole frame leaves nothing of what was painted before. -/
theorem fill_eq_solid {f : Frame} (h : f.IsWhole) (c : Color) :
    f.fill c = solid f.width f.height c := by
  have hcount : f.data.size / 4 = f.pixelCount := by
    rw [h]
    omega
  have hrest : f.data.extract (4 * f.pixelCount) f.data.size = .empty := by
    rw [ByteArray.extract_eq_empty_iff, h]
    exact Nat.min_le_left _ _
  simp only [fill, hcount, hrest, ByteArray.append_empty]
  rfl

end Frame

end SceneLoop
