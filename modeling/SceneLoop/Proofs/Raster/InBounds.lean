import Mathlib
import SceneLoop.Proofs.Glyph.Placement
import SceneLoop.Proofs.Raster.Brackets
import SceneLoop.Proofs.Raster.Pointwise

/-!
# Bytes that are there

The bytes of a pixel are found at an offset that is computed with words of 64 bits, and those of an
image by row and column.  The painting of a canvas is repeated here with a check before each of
these accesses, and before each sum that places an image if sums are checked.  If the bytes of a
frame can be counted by a word and every image has as many bytes as pixels, no access ever fails,
whatever is drawn.  The program halts at the first sum that overflows, or nowhere if sums wrap
around.

## Main definitions

* `Halt` : why a program halts.
* `Frame.IsStored` : a whole frame whose bytes can be counted by a word.
* `FontBook.IsWhole` : faces whose images have as many bytes as pixels.
* `Frame.blendChecked`, `Frame.coverChecked`, `FontBook.drawLineChecked`, `Canvas.applyChecked` :
  painting with checked accesses.

## Main results

* `Frame.offset_of_isStored` : the offset of a pixel of the frame.
* `Canvas.applyChecked_eq` : one operation.
* `Canvas.accesses_in_bounds` : any operations on a new canvas.
-/

namespace SceneLoop

/-! ### Programs that halt -/

/-- Why a program halts. -/
inductive Halt where
  /-- Bytes were accessed that are not there. -/
  | access
  /-- A sum of words is not a word. -/
  | overflow

/-- A result, unless a sum overflowed before it. -/
def unlessOverflow {α : Type} (overflowed : Bool) (a : α) : Except Halt α :=
  if overflowed then .error .overflow else .ok a

theorem unlessOverflow_and_false {α : Type} (checks : Bool) (a : α) :
    unlessOverflow (checks && false) a = .ok a := by
  rw [Bool.and_false]
  rfl

theorem unlessOverflow_bind {α β : Type} {k : α → Except Halt β} {a : α} {overflowed : Bool} {b : β}
    (h : k a = unlessOverflow overflowed b) (before : Bool) :
    (unlessOverflow before a >>= k) = unlessOverflow (before || overflowed) b := by
  cases before with
  | true => rfl
  | false => exact h

/-- Steps one after the other, each of which keeps what the next one needs, halt if any of them
overflows. -/
theorem foldlM_eq_unlessOverflow {α β : Type} {P : α → Prop} {checked : α → β → Except Halt α}
    {step : α → β → α} {l : List β} (overflows : β → Bool)
    (hstep : ∀ a, P a → ∀ b ∈ l, checked a b = unlessOverflow (overflows b) (step a b))
    (hkept : ∀ a, P a → ∀ b, P (step a b)) {a : α} (ha : P a) :
    l.foldlM checked a = unlessOverflow (l.any overflows) (l.foldl step a) := by
  induction l generalizing a with
  | nil => rfl
  | cons b rest ih =>
    rw [List.foldlM_cons, hstep a ha b List.mem_cons_self, List.any_cons, List.foldl_cons]
    refine unlessOverflow_bind ?_ _
    exact ih (fun a ha b hb => hstep a ha b (List.mem_cons_of_mem _ hb)) (hkept a ha b)

/-! ### Pixels of a frame -/

namespace Frame

/-- A whole frame whose bytes can be counted by a word of 64 bits. -/
structure IsStored (f : Frame) : Prop where
  isWhole : f.IsWhole
  size_lt : f.data.size < 2 ^ 64

theorem SameExtent.isStored {f g : Frame} (h : f.SameExtent g) (hg : g.IsStored) : f.IsStored :=
  ⟨h.isWhole hg.isWhole, h.size ▸ hg.size_lt⟩

variable {f : Frame}

/-- Where the bytes of a pixel begin, as a word. -/
def offsetWord (f : Frame) (x y : ℕ) : UInt64 :=
  (UInt64.ofNat y * f.width.toUInt64 + UInt64.ofNat x) * 4

/-- The bytes of a pixel of the frame are there, and none of the words is too small. -/
theorem offset_of_isStored (hf : f.IsStored) {x y : ℕ} (h : f.hasPixel x y) :
    (f.offsetWord x y).toNat = f.offset x y ∧ f.offset x y + 4 ≤ f.data.size := by
  obtain ⟨hx, hy⟩ := hasPixel_iff.1 h
  have hwhole : f.data.size = 4 * (f.width.toNat * f.height.toNat) := hf.isWhole
  have hrows : (y + 1) * f.width.toNat ≤ f.width.toNat * f.height.toNat := by
    rw [Nat.mul_comm f.width.toNat]
    exact Nat.mul_le_mul_right _ hy
  rw [Nat.succ_mul] at hrows
  have hsize := hf.size_lt
  have hwidth := f.width.toNat_lt
  have hheight := f.height.toNat_lt
  constructor
  · rw [offsetWord, offset]
    simp only [UInt64.toNat_mul, UInt64.toNat_add, UInt64.toNat_ofNat', UInt32.toNat_toUInt64,
      Nat.mod_eq_of_lt (show x < 2 ^ 64 by omega), Nat.mod_eq_of_lt (show y < 2 ^ 64 by omega)]
    rw [Nat.mod_eq_of_lt (show y * f.width.toNat < 2 ^ 64 by omega),
      Nat.mod_eq_of_lt (show y * f.width.toNat + x < 2 ^ 64 by omega)]
    exact Nat.mod_eq_of_lt (by simp; omega)
  · rw [offset]
    omega

/-- The pixel in column `x` and row `y`, or a halt if its bytes are not all there. -/
def pixelChecked (f : Frame) (x y : ℕ) : Except Halt (Option Pixel) :=
  if f.hasPixel x y then
    if h : (f.offsetWord x y).toNat + 3 < f.data.size then
      .ok (some (readPixel f.data (f.offsetWord x y).toNat h))
    else .error .access
  else .ok none

/-- Paint a color over the pixel at a position that may lie outside the frame, or halt if the bytes
of the pixel are not all there. -/
def blendChecked (f : Frame) (x y : Int64) (c : Color) (coverage : Float32) : Except Halt Frame :=
  if 0 ≤ x ∧ 0 ≤ y ∧ f.hasPixel x.toNatClampNeg y.toNatClampNeg then
    let o := (f.offsetWord x.toNatClampNeg y.toNatClampNeg).toNat
    if o + 4 ≤ f.data.size then
      .ok { f with data := modifyBytes f.data o fun p => p.blend c coverage }
    else .error .access
  else .ok f

theorem pixelChecked_eq (hf : f.IsStored) (x y : ℕ) :
    f.pixelChecked x y = .ok (f.pixel? x y) := by
  rw [pixelChecked, pixel?]
  by_cases h : f.hasPixel x y
  · obtain ⟨hword, hle⟩ := offset_of_isStored hf h
    have hlt : f.offset x y + 3 < f.data.size := by omega
    simp only [h, hword, hlt, ↓reduceIte, ↓reduceDIte]
  · rw [if_neg h, if_neg h]

/-- Only the pixels of a frame can be read, and all of them. -/
theorem isSome_pixel?_iff (hf : f.IsStored) (x y : ℕ) :
    (f.pixel? x y).isSome ↔ f.hasPixel x y := by
  rw [pixel?]
  by_cases h : f.hasPixel x y
  · obtain ⟨-, hle⟩ := offset_of_isStored hf h
    have hlt : f.offset x y + 3 < f.data.size := by omega
    simp only [h, hlt, ↓reduceIte, ↓reduceDIte, Option.isSome_some]
  · simp [h]

theorem blendChecked_eq (hf : f.IsStored) (x y : Int64) (c : Color) (coverage : Float32) :
    f.blendChecked x y c coverage = .ok (f.blend x y c coverage) := by
  rw [blendChecked, blend]
  by_cases hxy : 0 ≤ x ∧ 0 ≤ y
  · by_cases h : f.hasPixel x.toNatClampNeg y.toNatClampNeg
    · obtain ⟨hword, hle⟩ := offset_of_isStored hf h
      rw [if_pos ⟨hxy.1, hxy.2, h⟩, if_pos hxy, blendAt_of_hasPixel h, hword, if_pos hle]
    · rw [if_neg fun hall => h hall.2.2, if_pos hxy, blendAt_of_not_hasPixel h]
  · rw [if_neg fun hall => hxy ⟨hall.1, hall.2.1⟩, if_neg hxy]

/-- Painting a pixel of another frame of the size, at its column and row as words. -/
theorem blend_ofNat {g : Frame} {x y : ℕ} (h : g.hasPixel x y) (c : Color) (coverage : Float32) :
    f.blend (.ofNat x) (.ofNat y) c coverage = f.blendAt x y c coverage := by
  obtain ⟨hx, hy⟩ := hasPixel_iff.1 h
  have hwidth := g.width.toNat_lt
  have hheight := g.height.toNat_lt
  rw [blend_eq_blendExact, Int64.toInt_ofNat_of_lt (by omega), Int64.toInt_ofNat_of_lt (by omega)]
  exact if_pos ⟨Int.natCast_nonneg x, Int.natCast_nonneg y⟩

end Frame

/-! ### Sets of points -/

section Sets

variable {ρ : Type} (r : Region ρ) (c : Color)

/-- Paint one pixel in proportion to its sample points, or halt. -/
def Region.paintAtChecked (p : ℕ × ℕ) (f : Frame) : Except Halt Frame :=
  if 0 < r.sampleCount p.2 p.1 then
    f.blendChecked (.ofNat p.2) (.ofNat p.1) c (Float32.ofNat (r.sampleCount p.2 p.1) / 16)
  else .ok f

theorem Region.paintAtChecked_eq {p : ℕ × ℕ} {g : Frame} (hp : g.hasPixel p.2 p.1) {f : Frame}
    (hf : f.IsStored) : r.paintAtChecked c p f = .ok (r.paintAt c p f) := by
  rw [paintAtChecked, paintAt, Coverage.paintPixel]
  split
  · rw [Frame.blendChecked_eq hf, Frame.blend_ofNat hp]
  · rfl

/-- Paint a set of points over the part of a frame within an extent, or halt. -/
def Frame.coverChecked (f : Frame) (b : Bounds) : Except Halt Frame :=
  if b.isFinite then (f.visits b).foldlM (fun f p => r.paintAtChecked c p f) f else .ok f

theorem Frame.coverChecked_eq {f : Frame} (hf : f.IsStored) (b : Bounds) :
    f.coverChecked r c b = .ok (f.cover b c r) := by
  rw [coverChecked]
  split
  · next hb =>
    have hvisits := foldlM_eq_unlessOverflow (P := IsStored) (l := f.visits b) (fun _ => false)
      (fun g hg p hp => r.paintAtChecked_eq c ((f.mem_visits hb _ _).1 hp).1 hg)
      (fun g hg p => (Coverage.sameExtent_paintPixel c _ _ _ g).isStored hg) hf
    rw [f.cover_eq_paintAll r c hb, hvisits, List.any_eq_false.2 fun _ _ => Bool.false_ne_true]
    rfl
  · next hb => rw [f.cover_of_not_isFinite c hb]

end Sets

namespace Path

/-- Paint the inside of a path, or halt. -/
def fillOnChecked (path : Path) (c : Color) (f : Frame) : Except Halt Frame :=
  match Bounds.ofPoints? path.corners with
  | some b => f.coverChecked (interior path.outline) c b
  | none => .ok f

/-- Paint a ribbon along edges between some corners, or halt. -/
def strokeOnChecked (corners : List Point) (edges : List Edge) (half : Float) (c : Color)
    (f : Frame) : Except Halt Frame :=
  match Bounds.ofPoints? corners with
  | some b => f.coverChecked (ribbon edges half) c (b.grow half)
  | none => .ok f

variable {f : Frame} (hf : f.IsStored)

include hf in
theorem fillOnChecked_eq (path : Path) (c : Color) :
    path.fillOnChecked c f = .ok (path.fillOn c f) := by
  rw [fillOnChecked, fillOn]
  cases Bounds.ofPoints? path.corners with
  | none => rfl
  | some b => exact Frame.coverChecked_eq _ c hf b

include hf in
theorem strokeOnChecked_eq (corners : List Point) (edges : List Edge) (half : Float) (c : Color) :
    strokeOnChecked corners edges half c f = .ok (strokeOn corners edges half c f) := by
  rw [strokeOnChecked, strokeOn]
  cases Bounds.ofPoints? corners with
  | none => rfl
  | some b => exact Frame.coverChecked_eq _ c hf (b.grow half)

end Path

/-! ### Texts -/

section Texts

variable (checks : Bool)

/-- The sum of two words, or a halt if it overflows and sums are checked. -/
def addWord (a b : Int64) : Except Halt Int64 :=
  unlessOverflow (checks && a.toBitVec.saddOverflow b.toBitVec) (a + b)

namespace Glyph

/-- How much of a pixel of the image is covered, or a halt if the byte is not there. -/
def coverageChecked (g : Glyph) (column row : ℕ) : Except Halt UInt8 :=
  if h : row * g.width + column < g.coverage.size then .ok g.coverage[row * g.width + column]
  else .error .access

/-- Paint one pixel of the image, or halt. -/
def paintAtChecked (g : Glyph) (c : Color) (origin : Int64 × Int64) (column row : ℕ) (f : Frame) :
    Except Halt Frame := do
  let coverage ← g.coverageChecked column row
  if coverage = 0 then .ok f
  else
    let x ← addWord checks origin.1 (.ofNat column)
    let y ← addWord checks origin.2 (.ofNat row)
    f.blendChecked x y c (coverage.toFloat32 / 255)

/-- Paint the image row by row, or halt. -/
def paintChecked (g : Glyph) (c : Color) (origin : Int64 × Int64) (f : Frame) : Except Halt Frame :=
  g.cells.foldlM (fun f p => g.paintAtChecked checks c origin p.2 p.1 f) f

/-- Whether a sum for a pixel of the image overflows. -/
def overflowsAt (g : Glyph) (origin : Int64 × Int64) (column row : ℕ) : Bool :=
  g.coverageAt column row ≠ 0 && !isAddressableAt origin column row

variable {g : Glyph}

/-- A glyph with as many bytes as pixels, which are not too many to be stored. -/
structure IsStored (g : Glyph) : Prop where
  isWhole : g.IsWhole
  size_lt : g.coverage.size < 2 ^ 63

/-- The columns and rows of an image that is stored can be counted by words. -/
theorem IsStored.lt (hg : g.IsStored) {column row : ℕ} (hcolumn : column < g.width)
    (hrow : row < g.height) : column < 2 ^ 63 ∧ row < 2 ^ 63 := by
  have hsize : g.width * g.height < 2 ^ 63 := hg.isWhole ▸ hg.size_lt
  have hwidth : g.width ≤ g.width * g.height := Nat.le_mul_of_pos_right _ (by omega)
  have hheight : g.height ≤ g.width * g.height := Nat.le_mul_of_pos_left _ (by omega)
  omega

/-- The byte of a pixel of the image is there. -/
theorem coverageChecked_eq (hg : g.IsWhole) {column row : ℕ} (hcolumn : column < g.width)
    (hrow : row < g.height) : g.coverageChecked column row = .ok (g.coverageAt column row) := by
  have hrows : (row + 1) * g.width ≤ g.width * g.height := by
    rw [Nat.mul_comm g.width]
    exact Nat.mul_le_mul_right _ hrow
  have hindex : row * g.width + column < g.coverage.size := by
    rw [hg]
    rw [Nat.succ_mul] at hrows
    omega
  rw [coverageChecked, coverageAt, dif_pos hindex, dif_pos hindex]

/-- One pixel of an image is painted, unless a sum for it overflows and sums are checked. -/
theorem paintAtChecked_eq (hg : g.IsWhole) (c : Color) (origin : Int64 × Int64) {column row : ℕ}
    (hcolumn : column < g.width) (hrow : row < g.height) {f : Frame} (hf : f.IsStored) :
    g.paintAtChecked checks c origin column row f =
      unlessOverflow (checks && g.overflowsAt origin column row)
        (g.paintAt c origin column row f) := by
  rw [paintAtChecked, coverageChecked_eq hg hcolumn hrow, paintAt, overflowsAt]
  change (if _ then _ else _) = _
  by_cases hcoverage : g.coverageAt column row = 0
  · simp [hcoverage, unlessOverflow]
  · have hsums : (checks && (decide (g.coverageAt column row ≠ 0) &&
        !isAddressableAt origin column row)) =
        (checks && origin.1.toBitVec.saddOverflow (Int64.ofNat column).toBitVec ||
          (checks && origin.2.toBitVec.saddOverflow (Int64.ofNat row).toBitVec || false)) := by
      simp [hcoverage, isAddressableAt, Bool.and_or_distrib_left]
    rw [if_neg hcoverage, if_neg hcoverage, hsums]
    refine unlessOverflow_bind ?_ _
    refine unlessOverflow_bind ?_ _
    exact Frame.blendChecked_eq hf _ _ c _

/-- A pixel of an image that exact sums place outside of a frame leaves it as it is. -/
theorem paintAt_of_outside (hg : g.IsStored) (c : Color) (origin : Int64 × Int64) {column row : ℕ}
    (hcolumn : column < g.width) (hrow : row < g.height) {f : Frame}
    (h : ¬(0 ≤ origin.1.toInt + column ∧ origin.1.toInt + column < f.width.toNat ∧
      0 ≤ origin.2.toInt + row ∧ origin.2.toInt + row < f.height.toNat)) :
    g.paintAt c origin column row f = f := by
  obtain ⟨hcolumn, hrow⟩ := hg.lt hcolumn hrow
  simp only [paintAt]
  split
  · rfl
  · rw [f.blend_add _ _ hcolumn hrow, f.blendExact_of_outside h]

theorem paintChecked_eq (hg : g.IsWhole) (c : Color) (origin : Int64 × Int64) {f : Frame}
    (hf : f.IsStored) :
    g.paintChecked checks c origin f =
      unlessOverflow (checks && !g.isAddressable origin) (g.paint c origin f) := by
  have hcells := foldlM_eq_unlessOverflow (P := Frame.IsStored) (l := g.cells)
    (fun p => checks && g.overflowsAt origin p.2 p.1)
    (fun f hf p hp => paintAtChecked_eq checks hg c origin (mem_cells.1 hp).2 (mem_cells.1 hp).1 hf)
    (fun f hf p => (g.sameExtent_paintAt c origin p.2 p.1 f).isStored hf) hf
  have hany : (g.cells.any fun p => checks && g.overflowsAt origin p.2 p.1) =
      (checks && !g.isAddressable origin) := by
    rw [isAddressable_eq_all_cells, List.not_all_eq_any_not]
    cases checks with
    | true => simp [overflowsAt]
    | false => simp
  rw [paintChecked, hcells, hany, g.paint_eq_foldl_cells]

end Glyph

namespace Face

variable {face : Face}

/-- A face whose images have as many bytes as pixels. -/
def IsWhole (face : Face) : Prop :=
  ∀ size letter, (face.glyph size letter).IsWhole

/-- Paint a line of text, or halt. -/
def drawLineChecked (face : Face) (size : Float32) (c : Color) (penY : Float32) :
    List Char → Float32 → Frame → Except Halt Frame
  | [], _, f => .ok f
  | letter :: rest, penX, f => do
    let g := face.glyph size letter
    unlessOverflow (checks && !g.hasTop) ()
    let f ← g.paintChecked checks c (g.origin penX penY) f
    drawLineChecked face size c penY rest (penX + g.advance) f

theorem drawLineChecked_eq (hface : face.IsWhole) (size : Float32) (c : Color) (penY : Float32)
    (text : List Char) (penX : Float32) {f : Frame} (hf : f.IsStored) :
    face.drawLineChecked checks size c penY text penX f =
      unlessOverflow (checks && !face.isAddressable size penY text penX)
        (face.drawLine size c penY text penX f) := by
  induction text generalizing penX f with
  | nil => simp [drawLineChecked, isAddressable, drawLine, unlessOverflow]
  | cons letter rest ih =>
    obtain ⟨g, hg⟩ : ∃ g, face.glyph size letter = g := ⟨_, rfl⟩
    have hpaint := Glyph.paintChecked_eq checks (hg ▸ hface size letter) c (g.origin penX penY) hf
    have hrest := ih (penX + g.advance) ((g.sameExtent_paint c (g.origin penX penY) f).isStored hf)
    simp only [drawLineChecked, isAddressable, drawLine, hg, hpaint, Bool.not_and,
      Bool.and_or_distrib_left, Bool.or_assoc]
    refine unlessOverflow_bind ?_ _
    refine unlessOverflow_bind ?_ _
    exact hrest

end Face

namespace FontBook

/-- Faces whose images have as many bytes as pixels. -/
def IsWhole (book : FontBook) : Prop :=
  ∀ name face, book.named? name = some face → face.IsWhole

theorem isWhole_empty : empty.IsWhole :=
  nofun

theorem IsWhole.load {book : FontBook} (hbook : book.IsWhole) (name : String) {face : Face}
    (hface : face.IsWhole) : (book.load name face).IsWhole := by
  intro other found h
  rw [named?_load] at h
  split at h
  · exact Option.some.inj h ▸ hface
  · exact hbook other found h

theorem IsWhole.of_face? {book : FontBook} (hbook : book.IsWhole) {name : String} {face : Face}
    (h : book.face? name = some face) : face.IsWhole := by
  rw [face?, Option.or_eq_some_iff] at h
  rcases h with h | ⟨-, h⟩
  · exact hbook name face h
  · obtain ⟨first, -, h⟩ := Option.bind_eq_some_iff.1 h
    exact hbook first face h

/-- Paint a line of text, if there is a face for it, or halt. -/
def drawLineChecked (book : FontBook) (family text : String) (size penX penY : Float32) (c : Color)
    (f : Frame) : Except Halt Frame :=
  match book.face? family with
  | some face => face.drawLineChecked checks size c penY text.toList penX f
  | none => .ok f

theorem drawLineChecked_eq {book : FontBook} (hbook : book.IsWhole) (family text : String)
    (size penX penY : Float32) (c : Color) {f : Frame} (hf : f.IsStored) :
    book.drawLineChecked checks family text size penX penY c f =
      unlessOverflow (checks && !book.isAddressable family text size penX penY)
        (book.drawLine family text size penX penY c f) := by
  rw [drawLineChecked, drawLine, isAddressable]
  cases hface : book.face? family with
  | none => simp [unlessOverflow]
  | some face =>
    exact Face.drawLineChecked_eq checks (hbook.of_face? hface) size c penY _ penX hf

end FontBook

end Texts

/-! ### Operations -/

namespace Canvas

/-- Change the pixels, or halt. -/
def paintChecked (change : Frame → Except Halt Frame) (s : Canvas) : Except Halt Canvas :=
  (change s.frame).map fun frame => s.paint fun _ => frame

theorem paintChecked_eq {changeChecked : Frame → Except Halt Frame} {change : Frame → Frame}
    {s : Canvas} (overflowed : Bool)
    (h : changeChecked s.frame = unlessOverflow overflowed (change s.frame)) :
    s.paintChecked changeChecked = unlessOverflow overflowed (s.paint change) := by
  rw [paintChecked, h]
  cases overflowed <;> rfl

/-- Paint a text, or halt. -/
def paintTextChecked (checks : Bool) (text : String) (x y : Float) (s : Canvas) :
    Except Halt Canvas :=
  match s.placeText text x y with
  | .ok (some t) =>
    s.paintChecked (s.fonts.drawLineChecked checks t.family t.text t.size t.penX t.penY
      (s.pen.shade s.pen.fill))
  | _ => .ok s

/-- Paint the inside of a path, or halt. -/
def paintInsideChecked (path : Path) (s : Canvas) : Except Halt Canvas :=
  s.paintChecked (path.fillOnChecked (s.pen.shade s.pen.fill))

/-- Paint an outline that consists of some edges between some corners, or halt. -/
def paintOutlineChecked (corners : List Point) (edges : List Edge) (s : Canvas) :
    Except Halt Canvas :=
  s.paintChecked
    (Path.strokeOnChecked corners edges (s.pen.halfWidth s.scale) (s.pen.shade s.pen.stroke))

/-- Apply an operation, or halt. -/
def applyChecked (checks : Bool) (op : Op) (s : Canvas) : Except Halt Canvas :=
  match op with
  | .fillRect x y width height =>
    s.paintInsideChecked #[s.pen.rectCorners s.scale x y width height]
  | .strokeRect x y width height =>
    let corners := s.pen.rectCorners s.scale x y width height
    s.paintOutlineChecked corners.toList corners.outline
  | .fill => s.paintInsideChecked s.path
  | .stroke => s.paintOutlineChecked s.path.corners s.path.edges
  | .fillText text x y => s.paintTextChecked checks text x y
  | op => .ok (s.apply op).1

variable (checks : Bool) {s : Canvas} (hframe : s.frame.IsStored)

include hframe in
theorem paintInsideChecked_eq (path : Path) :
    s.paintInsideChecked path = .ok (s.paintInside path) :=
  paintChecked_eq false (Path.fillOnChecked_eq hframe path _)

include hframe in
theorem paintOutlineChecked_eq (corners : List Point) (edges : List Edge) :
    s.paintOutlineChecked corners edges = .ok (s.paintOutline corners edges) :=
  paintChecked_eq false (Path.strokeOnChecked_eq hframe corners edges _ _)

include hframe in
theorem paintTextChecked_eq (hfonts : s.fonts.IsWhole) (text : String) (x y : Float) :
    s.paintTextChecked checks text x y =
      unlessOverflow (checks && s.overflows (.fillText text x y)) (s.paintText text x y).1 := by
  rw [paintTextChecked, paintText, overflows]
  cases s.placeText text x y with
  | error fault => exact (unlessOverflow_and_false checks s).symm
  | ok placed =>
    cases placed with
    | none => exact (unlessOverflow_and_false checks s).symm
    | some t =>
      exact paintChecked_eq _ (FontBook.drawLineChecked_eq checks hfonts _ _ _ _ _ _ hframe)

include hframe in
/-- An operation is carried out, unless a sum overflows in it and sums are checked. -/
theorem applyChecked_eq (hfonts : s.fonts.IsWhole) (op : Op) :
    s.applyChecked checks op = unlessOverflow (checks && s.overflows op) (s.apply op).1 := by
  have hnone (t : Canvas) : .ok t = unlessOverflow (checks && false) t :=
    (unlessOverflow_and_false checks t).symm
  cases op with
  | fillRect | fill => exact (paintInsideChecked_eq hframe _).trans (hnone _)
  | strokeRect | stroke => exact (paintOutlineChecked_eq hframe _ _).trans (hnone _)
  | fillText text x y => exact paintTextChecked_eq checks hframe hfonts text x y
  | _ => exact hnone _

theorem sameSetting_applyEach (ops : List Op) (s : Canvas) :
    (Surface.applyEach ops s).SameSetting s := by
  induction ops generalizing s with
  | nil => exact .refl s
  | cons op rest ih => exact (ih _).trans (s.sameSetting_apply op)

/-- A sum overflowed before some operations or in one of them. -/
theorem overflowed_applyEach (ops : List Op) (t : CheckedCanvas) :
    (Surface.applyEach ops t).overflowed =
      (t.overflowed || (Surface.applyEach ops (CheckedCanvas.of t.canvas)).overflowed) := by
  induction ops generalizing t with
  | nil => exact (Bool.or_false _).symm
  | cons op rest ih =>
    have hstart : Surface.applyEach (op :: rest) t =
        Surface.applyEach rest ⟨(t.canvas.apply op).1, t.overflowed || t.canvas.overflows op⟩ := rfl
    have hfresh : Surface.applyEach (op :: rest) (CheckedCanvas.of t.canvas) =
        Surface.applyEach rest ⟨(t.canvas.apply op).1, t.canvas.overflows op⟩ := rfl
    rw [hstart, hfresh, ih, ih ⟨_, t.canvas.overflows op⟩, Bool.or_assoc]

/-- Operations are carried out one after the other, unless a sum overflows and sums are checked. -/
theorem foldlM_applyChecked_eq (hframe : s.frame.IsStored) (hfonts : s.fonts.IsWhole)
    (ops : List Op) :
    ops.foldlM (fun s op => s.applyChecked checks op) s =
      unlessOverflow (checks && (Surface.applyEach ops (CheckedCanvas.of s)).overflowed)
        (Surface.applyEach ops s) := by
  induction ops generalizing s with
  | nil => exact (unlessOverflow_and_false checks s).symm
  | cons op rest ih =>
    have hsetting := s.sameSetting_apply op
    have hrest := ih (hsetting.extent.isStored hframe) (hsetting.fonts ▸ hfonts)
    have hsums : (Surface.applyEach (op :: rest) (CheckedCanvas.of s)).overflowed =
        (s.overflows op ||
          (Surface.applyEach rest (CheckedCanvas.of (s.apply op).1)).overflowed) :=
      overflowed_applyEach rest ⟨(s.apply op).1, s.overflows op⟩
    rw [List.foldlM_cons, applyChecked_eq checks hframe hfonts, hsums, Bool.and_or_distrib_left]
    refine unlessOverflow_bind ?_ _
    exact hrest

/-- **Every access is in bounds.** On a new canvas whose bytes can be counted by a word, with faces
whose images have as many bytes as pixels, no access fails, whatever operations are asked for: they
are carried out where sums wrap around, and where sums are checked they are carried out unless one
of them overflows.  The frame keeps its width, its height and its bytes, four for each pixel; each
of its pixels can be read at its offset, and no other one is.  Painting at a position outside of it,
wherever that is, leaves it as it is, and so does each pixel of an image that exact sums place
outside of it. -/
theorem accesses_in_bounds (viewport : Viewport) (background : Color) (fonts : FontBook)
    (hsize : 4 * (viewport.backingWidth.toNat * viewport.backingHeight.toNat) < 2 ^ 64)
    (hfonts : fonts.IsWhole) (checks : Bool) (ops : List Op) :
    let blank := Canvas.blank viewport background fonts
    let f := (Surface.applyEach ops blank).frame
    ops.foldlM (fun s op => s.applyChecked checks op) blank =
        unlessOverflow (checks && (Surface.applyEach ops (CheckedCanvas.of blank)).overflowed)
          (Surface.applyEach ops blank) ∧
      f.width = viewport.backingWidth ∧ f.height = viewport.backingHeight ∧
      f.data.size = 4 * (viewport.backingWidth.toNat * viewport.backingHeight.toNat) ∧
      (∀ x y, f.hasPixel x y →
        (f.offsetWord x y).toNat = f.offset x y ∧ f.offset x y + 4 ≤ f.data.size) ∧
      (∀ x y, f.pixelChecked x y = .ok (f.pixel? x y) ∧
        ((f.pixel? x y).isSome ↔ f.hasPixel x y)) ∧
      (∀ (x y : Int64) (c : Color) (coverage : Float32),
        ¬(0 ≤ x.toInt ∧ x.toInt < f.width.toNat ∧ 0 ≤ y.toInt ∧ y.toInt < f.height.toNat) →
          f.blendChecked x y c coverage = .ok f) ∧
      ∀ (g : Glyph) (origin : Int64 × Int64) (column row : ℕ) (c : Color), g.IsStored →
        column < g.width → row < g.height →
        ¬(0 ≤ origin.1.toInt + column ∧ origin.1.toInt + column < f.width.toNat ∧
          0 ≤ origin.2.toInt + row ∧ origin.2.toInt + row < f.height.toNat) →
          g.paintAtChecked checks c origin column row f =
            unlessOverflow (checks && g.overflowsAt origin column row) f := by
  intro blank f
  have hblank : blank.frame.IsStored := by
    have hwhole := Frame.isWhole_solid viewport.backingWidth viewport.backingHeight background
    exact ⟨hwhole, hwhole ▸ hsize⟩
  have hextent : f.SameExtent blank.frame := (sameSetting_applyEach ops blank).extent
  have hf : f.IsStored := hextent.isStored hblank
  refine ⟨foldlM_applyChecked_eq checks hblank hfonts ops, hextent.width, hextent.height,
    hextent.size.trans hblank.isWhole, fun x y h => Frame.offset_of_isStored hf h,
    fun x y => ⟨Frame.pixelChecked_eq hf x y, Frame.isSome_pixel?_iff hf x y⟩,
    fun x y c coverage houtside => ?_, fun g origin column row c hg hcolumn hrow houtside => ?_⟩
  · rw [Frame.blendChecked_eq hf, f.blend_eq_blendExact, f.blendExact_of_outside houtside]
  · rw [Glyph.paintAtChecked_eq checks hg.isWhole c origin hcolumn hrow hf,
      Glyph.paintAt_of_outside hg c origin hcolumn hrow houtside]

/-- A canvas of four pixels with a line, a text that is clipped and another one that lies outside:
the operations are carried out where sums are checked, as nothing overflows. -/
theorem accesses_in_bounds_clipped :
    let blank := Canvas.blank (.fit ⟨2, 2⟩ 1 ⟨1, 1⟩) .white (FontBook.empty.load "Dash" .dash)
    let ops : List Op := [.font ⟨2, "Dash"⟩, .fillText "-" (-1) 2, .fillText "-" 1e9 (-1e9),
      .moveTo (-5) 1, .lineTo 9 1, .stroke]
    ops.foldlM (fun s op => s.applyChecked true op) blank = .ok (Surface.applyEach ops blank) := by
  intro blank ops
  have hfonts : (FontBook.empty.load "Dash" .dash).IsWhole :=
    FontBook.isWhole_empty.load "Dash" fun _ _ => rfl
  have hexact : (Surface.applyEach ops (CheckedCanvas.of blank)).overflowed = false := by
    decide +kernel
  have hrun := (accesses_in_bounds (.fit ⟨2, 2⟩ 1 ⟨1, 1⟩) .white _ (by decide +kernel) hfonts
    true ops).1
  rwa [hexact] at hrun

end Canvas

end SceneLoop
