import Mathlib
import SceneLoop.Proofs.Number.Integral
import SceneLoop.Proofs.Raster.Extent
import SceneLoop.Proofs.Raster.Regions

/-!
# Painting pixel by pixel

A set of points is painted over the pixels of a frame that its extent meets, one after another.
Each of them is painted once, in proportion to how many of its sample points belong to the set, and
painting a pixel leaves the bytes of all others alone.  So the pixels may be painted in any order,
and what becomes of one pixel is told without the others.

## Main definitions

* `Region.sampleCount` : how many sample points of a pixel belong to a set.
* `Bounds.Meets` : the pixels that an extent meets.
* `Region.shade` : what painting a set does to one pixel.
* `Region.paintAll` : painting pixels in a given order.

## Main results

* `Frame.blendAt_comm` : painting two pixels in either order.
* `Region.paintAll_perm` : painting some pixels in any order.
* `Frame.pixel?_cover` : what becomes of one pixel.
* `Frame.cover_pointwise` : painting a set is painting each pixel that its extent meets, in any
  order.
-/

namespace SceneLoop

open Binary64 (value floorWord floorWord_eq)

/-! ### Bytes of two pixels -/

namespace Frame

/-- The bytes after a pixel is stored. -/
theorem getElem_writePixel (data : ByteArray) (o i : ℕ) (h : o + 3 < data.size) (p : Pixel)
    (hi : i < (writePixel data o h p).size) :
    (writePixel data o h p)[i] =
      if i = o then p.r else if i = o + 1 then p.g else if i = o + 2 then p.b
      else if i = o + 3 then p.a else getElem data i (size_writePixel data o h p ▸ hi) := by
  simp only [writePixel, getElem_set]
  split_ifs <;> first | rfl | omega

/-- Pixels whose bytes lie apart may be stored in either order. -/
theorem writePixel_comm (data : ByteArray) {o q : ℕ} (ho : o + 3 < data.size)
    (hq : q + 3 < data.size) (p p' : Pixel) (hne : q + 3 < o ∨ o + 3 < q) :
    writePixel (writePixel data o ho p) q (by rwa [size_writePixel]) p' =
      writePixel (writePixel data q hq p') o (by rwa [size_writePixel]) p := by
  refine ByteArray.ext_getElem (by simp only [size_writePixel]) fun i hi hi' => ?_
  simp only [getElem_writePixel]
  split_ifs <;> first | rfl | omega

theorem modifyBytes_of_not_lt {data : ByteArray} {o : ℕ} (h : ¬o + 3 < data.size)
    (change : Pixel → Pixel) : modifyBytes data o change = data :=
  dif_neg h

/-- Pixels whose bytes lie apart may be changed in either order. -/
theorem modifyBytes_comm (data : ByteArray) {o q : ℕ} (change change' : Pixel → Pixel)
    (hne : q + 3 < o ∨ o + 3 < q) :
    modifyBytes (modifyBytes data o change) q change' =
      modifyBytes (modifyBytes data q change') o change := by
  by_cases ho : o + 3 < data.size
  · by_cases hq : q + 3 < data.size
    · simp only [modifyBytes, ho, hq, size_writePixel, ↓reduceDIte,
        readPixel_writePixel_of_apart data o q ho _ _ hne,
        readPixel_writePixel_of_apart data q o hq _ _ hne.symm]
      exact writePixel_comm data ho hq _ _ hne
    · rw [modifyBytes_of_not_lt hq, modifyBytes_of_not_lt (by rwa [size_modifyBytes])]
  · have ho' : ¬o + 3 < (modifyBytes data q change').size := by rwa [size_modifyBytes]
    rw [modifyBytes_of_not_lt ho, modifyBytes_of_not_lt ho']

theorem blendAt_of_hasPixel {f : Frame} {x y : ℕ} (h : f.hasPixel x y) (c : Color)
    (coverage : Float32) :
    f.blendAt x y c coverage =
      { f with data := modifyBytes f.data (f.offset x y) fun p => p.blend c coverage } :=
  if_pos h

theorem blendAt_of_not_hasPixel {f : Frame} {x y : ℕ} (h : ¬f.hasPixel x y) (c : Color)
    (coverage : Float32) : f.blendAt x y c coverage = f :=
  if_neg h

/-- Two pixels may be painted in either order. -/
theorem blendAt_comm (f : Frame) {x y x' y' : ℕ} (hne : ¬(x = x' ∧ y = y')) (c c' : Color)
    (coverage coverage' : Float32) :
    (f.blendAt x y c coverage).blendAt x' y' c' coverage' =
      (f.blendAt x' y' c' coverage').blendAt x y c coverage := by
  by_cases h : f.hasPixel x y
  · by_cases h' : f.hasPixel x' y'
    · have hapart := f.offset_apart (hasPixel_iff.1 h).1 (hasPixel_iff.1 h').1 hne
      have hdata := modifyBytes_comm f.data (fun p => p.blend c coverage)
        (fun p => p.blend c' coverage') hapart
      rw [blendAt_of_hasPixel (by rwa [hasPixel_blendAt]),
        blendAt_of_hasPixel (f := f.blendAt x' y' c' coverage') (by rwa [hasPixel_blendAt]),
        blendAt_of_hasPixel h, blendAt_of_hasPixel h']
      exact congrArg (Frame.mk f.width f.height) hdata
    · rw [blendAt_of_not_hasPixel h', blendAt_of_not_hasPixel (by rwa [hasPixel_blendAt])]
  · rw [blendAt_of_not_hasPixel h, blendAt_of_not_hasPixel (f := f.blendAt x' y' c' coverage')
      (by rwa [hasPixel_blendAt])]

end Frame

/-! ### Sample points -/

section Sets

variable {ρ : Type} (r : Region ρ) (c : Color)

open Coverage

/-- The sample points of a pixel. -/
def Coverage.samplePoints (x y : ℕ) : List (Float × Float) :=
  samples.flatMap fun dy => samples.map fun dx => (Float.ofNat x + dx, Float.ofNat y + dy)

/-- How many sample points of a pixel belong to a set. -/
def Region.sampleCount (x y : ℕ) : ℕ :=
  (samplePoints x y).countP fun p => r.contains p.1 p.2

theorem Coverage.hits_rows_eq_sampleCount (x y : ℕ) :
    hits r.holds (rows r.row y) x = r.sampleCount x y := by
  rw [hits_rows, Region.sampleCount, samplePoints, List.countP_flatMap, List.sum_eq_foldl,
    List.foldl_map]
  refine congrArg (fun step => List.foldl step 0 samples) (funext₂ fun n dy => ?_)
  rw [Function.comp_apply, List.countP_map]
  rfl

/-! ### Painting pixels in a given order -/

namespace Region

/-- Paint one pixel, given by its row and column, in proportion to its sample points. -/
def paintAt (p : ℕ × ℕ) (f : Frame) : Frame :=
  paintPixel c (r.sampleCount p.2 p.1) p.2 p.1 f

/-- Paint pixels in a given order. -/
def paintAll (order : List (ℕ × ℕ)) (f : Frame) : Frame :=
  order.foldl (fun f p => r.paintAt c p f) f

/-- What painting a set does to the color of one pixel that its extent meets. -/
def tint (x y : ℕ) (p : Pixel) : Pixel :=
  if 0 < r.sampleCount x y then p.blend c (Float32.ofNat (r.sampleCount x y) / 16) else p

theorem pixel?_paintAt (p : ℕ × ℕ) (f : Frame) (x y : ℕ) :
    (r.paintAt c p f).pixel? x y =
      if p = (y, x) then (f.pixel? x y).map (r.tint c x y) else f.pixel? x y := by
  obtain ⟨y', x'⟩ := p
  by_cases hp : (y', x') = (y, x)
  · obtain ⟨rfl, rfl⟩ := Prod.mk.inj hp
    rw [if_pos rfl, paintAt, paintPixel]
    by_cases hcount : 0 < r.sampleCount x' y'
    · have htint : r.tint c x' y' = (·.blend c (Float32.ofNat (r.sampleCount x' y') / 16)) :=
        funext fun p => if_pos hcount
      rw [if_pos hcount, Frame.pixel?_blendAt, if_pos ⟨rfl, rfl⟩, htint]
    · have htint : r.tint c x' y' = id := funext fun p => if_neg hcount
      rw [if_neg hcount, htint, Option.map_id, id]
  · have hne : ¬(x' = x ∧ y' = y) := fun h => hp (Prod.ext h.2 h.1)
    rw [if_neg hp, paintAt, paintPixel]
    split_ifs
    · rw [Frame.pixel?_blendAt, if_neg hne]
    · rfl

/-- Pixels that differ may be painted in either order. -/
theorem paintAt_comm (p q : ℕ × ℕ) (f : Frame) :
    r.paintAt c p (r.paintAt c q f) = r.paintAt c q (r.paintAt c p f) := by
  by_cases hpq : p = q
  · rw [hpq]
  · have hne : ¬(q.2 = p.2 ∧ q.1 = p.1) := fun h => hpq (Prod.ext h.2.symm h.1.symm)
    simp only [paintAt, paintPixel]
    split_ifs
    · exact f.blendAt_comm hne c c _ _
    all_goals rfl

/-- Some pixels may be painted in any order. -/
theorem paintAll_perm {order order' : List (ℕ × ℕ)} (h : order.Perm order') (f : Frame) :
    r.paintAll c order f = r.paintAll c order' f :=
  h.foldl_eq' (fun p _ q _ f => r.paintAt_comm c q p f) f

/-- Each of some different pixels is painted once, and no other one is. -/
theorem pixel?_paintAll {order : List (ℕ × ℕ)} (h : order.Nodup) (f : Frame) (x y : ℕ) :
    (r.paintAll c order f).pixel? x y =
      if (y, x) ∈ order then (f.pixel? x y).map (r.tint c x y) else f.pixel? x y := by
  induction order generalizing f with
  | nil => simp [paintAll]
  | cons p rest ih =>
    obtain ⟨hp, hrest⟩ := List.nodup_cons.1 h
    have hfirst : r.paintAll c (p :: rest) f = r.paintAll c rest (r.paintAt c p f) := rfl
    rw [hfirst, ih hrest, pixel?_paintAt]
    by_cases hxy : p = (y, x)
    · subst hxy
      simp [hp]
    · simp [hxy, Ne.symm hxy]

end Region

/-! ### The pixels that an extent meets -/

/-- The pixel at a column and a row lies, at least in part, between the sides of an extent. -/
structure Bounds.Meets (b : Bounds) (x y : ℕ) : Prop where
  left : ⌊value b.left⌋ ≤ x
  right : (x : ℤ) < ⌈value b.right⌉
  top : ⌊value b.top⌋ ≤ y
  bottom : (y : ℤ) < ⌈value b.bottom⌉

theorem Bounds.meets_iff (b : Bounds) (x y : ℕ) :
    b.Meets x y ↔ (⌊value b.left⌋ ≤ x ∧ (x : ℤ) < ⌈value b.right⌉) ∧
      ⌊value b.top⌋ ≤ y ∧ (y : ℤ) < ⌈value b.bottom⌉ :=
  ⟨fun h => ⟨⟨h.left, h.right⟩, h.top, h.bottom⟩, fun h => ⟨h.1.1, h.1.2, h.2.1, h.2.2⟩⟩

instance (b : Bounds) (x y : ℕ) : Decidable (b.Meets x y) :=
  decidable_of_iff' _ (b.meets_iff x y)

/-- The ceiling of a double as a word is the integer that is closest to it in the range of
words, but for its lowest one. -/
theorem Binary64.neg_floorWord_neg {x : Float} (h : x.isFinite) :
    -floorWord (-x) = -Binary.toWord64 (-⌈value x⌉) := by
  have hneg : HasValue (-x) (-value x) := HasValue.neg ⟨h, rfl⟩
  rw [floorWord_eq hneg.isFinite, hneg.value_eq, Int.floor_neg]

/-- The pixels between two coordinates, before a limit. -/
theorem Coverage.mem_span {least greatest : Float} (hleast : least.isFinite)
    (hgreatest : greatest.isFinite) (limit : UInt32) (n : ℕ) :
    n ∈ List.range' (span least greatest limit).1 (span least greatest limit).2 ↔
      n < limit.toNat ∧ ⌊value least⌋ ≤ n ∧ (n : ℤ) < ⌈value greatest⌉ := by
  have hlimit := limit.toNat_lt
  rw [List.mem_range'_1, span, floorWord_eq hleast, Binary64.neg_floorWord_neg hgreatest]
  simp only [Binary.toWord64]
  omega

namespace Frame

/-- The pixels of a frame that an extent meets, row by row. -/
def visits (f : Frame) (b : Bounds) : List (ℕ × ℕ) :=
  let (x, width) := span b.left b.right f.width
  let (y, height) := span b.top b.bottom f.height
  List.range' y height ×ˢ List.range' x width

theorem nodup_visits (f : Frame) (b : Bounds) : (f.visits b).Nodup :=
  .product List.nodup_range' List.nodup_range'

theorem mem_visits (f : Frame) {b : Bounds} (hb : b.isFinite) (x y : ℕ) :
    (y, x) ∈ f.visits b ↔ f.hasPixel x y ∧ b.Meets x y := by
  simp only [Bounds.isFinite, Bool.and_eq_true] at hb
  obtain ⟨⟨⟨hleft, htop⟩, hright⟩, hbottom⟩ := hb
  rw [visits, List.mem_product, mem_span htop hbottom, mem_span hleft hright, b.meets_iff,
    hasPixel_iff]
  tauto

end Frame

theorem Coverage.paintRow_eq_foldl (holds : ρ → Float → Bool) (rows : List ρ) (y n x : ℕ)
    (f : Frame) :
    paintRow holds c rows y n x f =
      (List.range' x n).foldl (fun f x => paintPixel c (hits holds rows x) x y f) f := by
  induction n generalizing x f with
  | zero => rfl
  | succ n ih => rw [paintRow, ih, List.range'_succ, List.foldl_cons]

theorem Coverage.paintRows_eq_paintAll (width x n y : ℕ) (f : Frame) :
    paintRows r.row r.holds c width x n y f =
      r.paintAll c (List.range' y n ×ˢ List.range' x width) f := by
  induction n generalizing y f with
  | zero => rfl
  | succ n ih =>
    rw [paintRows, ih, List.range'_succ, List.product_cons, Region.paintAll, Region.paintAll,
      List.foldl_append, List.foldl_map, paintRow_eq_foldl]
    simp only [hits_rows_eq_sampleCount]
    rfl

/-- A set is painted over the pixels that its extent meets, row by row. -/
theorem Frame.cover_eq_paintAll (f : Frame) {b : Bounds} (hb : b.isFinite) :
    f.cover b c r = r.paintAll c (f.visits b) f := by
  rw [cover, if_pos hb]
  exact paintRows_eq_paintAll r c _ _ _ _ f

/-- What painting a set within an extent does to the color of one pixel. -/
def Region.shade (b : Bounds) (x y : ℕ) (p : Pixel) : Pixel :=
  if b.isFinite ∧ b.Meets x y then r.tint c x y p else p

/-- What becomes of one pixel. -/
theorem Frame.pixel?_cover (f : Frame) (b : Bounds) (x y : ℕ) :
    (f.cover b c r).pixel? x y = (f.pixel? x y).map (r.shade c b x y) := by
  by_cases hb : b.isFinite
  · have hmem := f.mem_visits hb x y
    rw [cover_eq_paintAll r c f hb, r.pixel?_paintAll c (f.nodup_visits b)]
    by_cases hvisit : (y, x) ∈ f.visits b
    · have hshade : r.shade c b x y = r.tint c x y :=
        funext fun p => if_pos ⟨hb, (hmem.1 hvisit).2⟩
      rw [if_pos hvisit, hshade]
    · rw [if_neg hvisit]
      by_cases hpixel : f.hasPixel x y
      · have hshade : r.shade c b x y = id :=
          funext fun p => if_neg fun h => hvisit (hmem.2 ⟨hpixel, h.2⟩)
        rw [hshade, Option.map_id, id]
      · have hnone : f.pixel? x y = none := if_neg hpixel
        rw [hnone, Option.map_none]
  · have hshade : r.shade c b x y = id := funext fun p => if_neg fun h => hb h.1
    rw [f.cover_of_not_isFinite c hb, hshade, Option.map_id, id]

/-- Painting a set keeps the extent of a frame and turns each pixel into what the number of its
sample points in the set says, apart from the other pixels.  An extent that is not finite leaves
the frame as it is; within a finite one the pixels may be painted once each in any order. -/
theorem Frame.cover_pointwise (f : Frame) (b : Bounds) :
    (f.cover b c r).SameExtent f ∧
      (∀ x y, (f.cover b c r).pixel? x y = (f.pixel? x y).map (r.shade c b x y)) ∧
      (¬b.isFinite → f.cover b c r = f) ∧
      (b.isFinite → ∀ order : List (ℕ × ℕ), order.Nodup →
        (∀ x y, (y, x) ∈ order ↔ f.hasPixel x y ∧ b.Meets x y) →
        f.cover b c r = r.paintAll c order f) := by
  refine ⟨f.sameExtent_cover b c r, f.pixel?_cover r c b, fun hb => f.cover_of_not_isFinite c hb r,
    fun hb order hnodup hmem => ?_⟩
  have hperm : (f.visits b).Perm order :=
    (List.perm_ext_iff_of_nodup (f.nodup_visits b) hnodup).2 fun p =>
      (f.mem_visits hb p.2 p.1).trans (hmem p.2 p.1).symm
  rw [f.cover_eq_paintAll r c hb, r.paintAll_perm c hperm]

end Sets

/-- A square of two by two pixels, painted column by column, and an extent without a right side. -/
theorem Frame.cover_pointwise_square :
    let f := Frame.blank 2 2
    let everywhere : Region Float := ⟨id, fun _ _ => true⟩
    let columns := [(0, 0), (1, 0), (0, 1), (1, 1)]
    f.cover ⟨0, 0, 2, 2⟩ .black everywhere = everywhere.paintAll .black columns f ∧
      f.cover ⟨0, 0, Binary64.infinity, 2⟩ .black everywhere = f := by
  intro f everywhere columns
  have htwo : value 2 = 2 := (Binary64.hasValue_ofNat (n := 2) (by decide)).value_eq
  have hmem (x y : ℕ) :
      (y, x) ∈ columns ↔ f.hasPixel x y ∧ Bounds.Meets ⟨0, 0, 2, 2⟩ x y := by
    rw [Bounds.meets_iff, htwo, Binary64.hasValue_zero.value_eq, Int.floor_zero]
    have hceil : ⌈(2 : ℚ)⌉ = 2 := by decide
    rw [hceil]
    simp [columns, f, hasPixel, blank, solid]
    omega
  exact ⟨(f.cover_pointwise everywhere .black ⟨0, 0, 2, 2⟩).2.2.2 (by decide) columns (by decide)
      hmem,
    (f.cover_pointwise everywhere .black ⟨0, 0, Binary64.infinity, 2⟩).2.2.1 (by decide)⟩

end SceneLoop
