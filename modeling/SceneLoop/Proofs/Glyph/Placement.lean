import Mathlib
import SceneLoop.Glyph.Face
import SceneLoop.Proofs.Number.Saturation
import SceneLoop.Proofs.Raster.Extent

/-!
# Where the pixels of a line of text are painted

Each covered pixel of an image is painted at the origin of the image moved by its column and row.
The origin is a word of 64 bits, the last one if the pen is at `2 ^ 63` or further, and from there
only the first column, or the first row, of the image is still among the words.  The sums for all
others overflow.  A program that checks sums halts there; one that wraps them around paints the same
as with exact sums, since what lies past the words lies outside of every frame, before and after.

## Main definitions

* `Mark` : one pixel that is painted, at exact sums, and how much of it.
* `Face.placements`, `Face.marks` : the images of a line of text and all its marks.
* `Mark.IsAddressable` : a mark whose column and row are words.

## Main results

* `Face.drawLine_eq_foldl` : a line of text is painted mark by mark.
* `Face.isAddressable_iff` : no sum overflows if all marks are addressable.
* `Face.isAddressable_line_iff` : when all marks of a line of text are addressable, and what is
  painted then and otherwise.
-/

namespace SceneLoop

/-! ### Sums of words -/

/-- An integer in the range of signed words of 64 bits. -/
def IsWord (z : ℤ) : Prop :=
  -2 ^ 63 ≤ z ∧ z < 2 ^ 63

instance (z : ℤ) : Decidable (IsWord z) :=
  inferInstanceAs (Decidable (_ ∧ _))

/-- A sum overflows if the exact sum is not a word. -/
theorem saddOverflow_eq_false_iff (a : Int64) {n : ℕ} (hn : n < 2 ^ 63) :
    a.toBitVec.saddOverflow (Int64.ofNat n).toBitVec = false ↔ IsWord (a.toInt + n) := by
  simp only [BitVec.saddOverflow, Int64.toInt_toBitVec, Int64.toInt_ofNat_of_lt hn,
    Bool.or_eq_false_iff, decide_eq_false_iff_not, IsWord]
  omega

/-- An integer that is no more than one range of words past the words wraps around to a negative
one. -/
theorem bmod_cases {z : ℤ} (hlow : -2 ^ 63 ≤ z) (hhigh : z < 2 ^ 64) :
    z.bmod (2 ^ 64) = z ∨ 2 ^ 63 ≤ z ∧ z.bmod (2 ^ 64) < 0 := by
  rw [Int.bmod_def]
  split_ifs <;> omega

/-- What wraps around lies outside of every frame, before and after. -/
theorem Frame.blend_add (f : Frame) (a b : Int64) {n m : ℕ} (hn : n < 2 ^ 63) (hm : m < 2 ^ 63)
    (c : Color) (coverage : Float32) :
    f.blend (a + .ofNat n) (b + .ofNat m) c coverage =
      f.blendExact (a.toInt + n) (b.toInt + m) c coverage := by
  have hwidth := f.width.toNat_lt
  have hheight := f.height.toNat_lt
  have ha := a.le_toInt
  have ha' := a.toInt_lt
  have hb := b.le_toInt
  have hb' := b.toInt_lt
  rw [blend_eq_blendExact, Int64.toInt_add, Int64.toInt_add, Int64.toInt_ofNat_of_lt hn,
    Int64.toInt_ofNat_of_lt hm]
  obtain hsame | ⟨hpast, hnegative⟩ := bmod_cases (z := a.toInt + n) (by omega) (by omega)
  · obtain hsame' | ⟨hpast, hnegative⟩ := bmod_cases (z := b.toInt + m) (by omega) (by omega)
    · rw [hsame, hsame']
    · rw [f.blendExact_of_outside (by omega), f.blendExact_of_outside (by omega)]
  · rw [f.blendExact_of_outside (by omega), f.blendExact_of_outside (by omega)]

/-! ### Painting mark by mark -/

/-- One pixel that is painted, at a column and a row that may lie outside the frame. -/
structure Mark where
  /-- The column. -/
  x : ℤ
  /-- The row. -/
  y : ℤ
  /-- How much of the pixel is covered, out of 255. -/
  coverage : UInt8
deriving DecidableEq

namespace Mark

/-- Paint one pixel. -/
def paint (m : Mark) (c : Color) (f : Frame) : Frame :=
  f.blendExact m.x m.y c (m.coverage.toFloat32 / 255)

/-- A mark whose column and row are words. -/
def IsAddressable (m : Mark) : Prop :=
  IsWord m.x ∧ IsWord m.y

instance (m : Mark) : Decidable m.IsAddressable :=
  inferInstanceAs (Decidable (_ ∧ _))

end Mark

theorem fold_eq_foldl {α : Type} (n : ℕ) (step : ℕ → α → α) (a : α) :
    Nat.fold n (fun i _ a => step i a) a = (List.range n).foldl (fun a i => step i a) a := by
  induction n generalizing a with
  | zero => rfl
  | succ n ih => rw [Nat.fold_succ, List.range_succ, List.foldl_append, ih]; rfl

/-- A loop within a loop goes through all pairs of numbers. -/
theorem fold_fold_eq_foldl {α : Type} (n m : ℕ) (step : ℕ → ℕ → α → α) (a : α) :
    Nat.fold n (fun i _ a => Nat.fold m (fun j _ a => step i j a) a) a =
      (List.range n ×ˢ List.range m).foldl (fun a p => step p.1 p.2 a) a := by
  rw [fold_eq_foldl n fun i a => Nat.fold m (fun j _ a => step i j a) a]
  refine Eq.trans ?_ List.foldl_flatMap.symm
  refine congrArg (fun step => List.foldl step a (List.range n)) (funext₂ fun a i => ?_)
  rw [fold_eq_foldl m (step i), List.foldl_map]

namespace Glyph

variable (g : Glyph)

/-- The pixels of an image by row and column, row by row. -/
def cells : List (ℕ × ℕ) :=
  List.range g.height ×ˢ List.range g.width

variable {g} in
theorem mem_cells {p : ℕ × ℕ} : p ∈ g.cells ↔ p.1 < g.height ∧ p.2 < g.width := by
  obtain ⟨row, column⟩ := p
  rw [cells, List.mem_product, List.mem_range, List.mem_range]

/-- The pixels of an image that are covered. -/
def covered : List (ℕ × ℕ) :=
  g.cells.filter fun p => g.coverageAt p.2 p.1 ≠ 0

variable {g} in
theorem mem_covered {p : ℕ × ℕ} : p ∈ g.covered ↔ p ∈ g.cells ∧ g.coverageAt p.2 p.1 ≠ 0 := by
  rw [covered, List.mem_filter, decide_eq_true_eq]

/-- The marks of an image that begins at a position. -/
def marks (origin : Int64 × Int64) : List Mark :=
  g.covered.map fun p => ⟨origin.1.toInt + p.2, origin.2.toInt + p.1, g.coverageAt p.2 p.1⟩

theorem paint_eq_foldl_cells (c : Color) (origin : Int64 × Int64) (f : Frame) :
    g.paint c origin f = g.cells.foldl (fun f p => g.paintAt c origin p.2 p.1 f) f :=
  fold_fold_eq_foldl _ _ (fun row column f => g.paintAt c origin column row f) f

/-- The sums for an image are checked pixel by pixel. -/
theorem isAddressable_eq_all_cells (origin : Int64 × Int64) :
    g.isAddressable origin =
      g.cells.all fun p => g.coverageAt p.2 p.1 = 0 || isAddressableAt origin p.2 p.1 := by
  refine Eq.trans ?_ List.all_flatMap.symm
  simp only [isAddressable, List.all_map, Function.comp_def]

/-- An image that is not too large to be stored. -/
structure IsSmall (g : Glyph) : Prop where
  width_le : g.width ≤ 2 ^ 39
  height_le : g.height ≤ 2 ^ 39

variable {g}

theorem IsSmall.lt_of_mem_cells (hsmall : g.IsSmall) {p : ℕ × ℕ} (hp : p ∈ g.cells) :
    p.1 < 2 ^ 39 ∧ p.2 < 2 ^ 39 :=
  ⟨(mem_cells.1 hp).1.trans_le hsmall.height_le, (mem_cells.1 hp).2.trans_le hsmall.width_le⟩

/-- An image is painted mark by mark, also where sums wrap around. -/
theorem paint_eq_foldl (hsmall : g.IsSmall) (c : Color) (origin : Int64 × Int64) (f : Frame) :
    g.paint c origin f = (g.marks origin).foldl (fun f m => m.paint c f) f := by
  rw [paint_eq_foldl_cells, marks, covered, List.foldl_map, List.foldl_filter]
  refine List.foldl_ext _ _ f fun f p hp => ?_
  obtain ⟨hrow, hcolumn⟩ := hsmall.lt_of_mem_cells hp
  simp only [paintAt, decide_eq_true_eq, ne_eq, ite_not]
  rw [f.blend_add _ _ (by omega) (by omega)]
  rfl

/-- No sum for an image overflows if all its marks are addressable. -/
theorem isAddressable_iff (hsmall : g.IsSmall) (origin : Int64 × Int64) :
    g.isAddressable origin ↔ ∀ m ∈ g.marks origin, m.IsAddressable := by
  rw [isAddressable_eq_all_cells, List.all_eq_true, marks, List.forall_mem_map]
  simp only [mem_covered, and_imp]
  refine forall₂_congr fun p hp => ?_
  obtain ⟨hrow, hcolumn⟩ := hsmall.lt_of_mem_cells hp
  simp only [isAddressableAt, Bool.or_eq_true, decide_eq_true_eq, Bool.not_eq_true',
    Bool.or_eq_false_iff, or_iff_not_imp_left, Mark.IsAddressable]
  rw [saddOverflow_eq_false_iff _ (by omega), saddOverflow_eq_false_iff _ (by omega)]

end Glyph

namespace Face

variable (face : Face) (size : Float32)

/-- The images of a line of text, each with the position of the pen. -/
def placements : List Char → Float32 → List (Glyph × Float32)
  | [], _ => []
  | letter :: rest, penX =>
    let g := face.glyph size letter
    (g, penX) :: placements rest (penX + g.advance)

/-- The marks of a line of text. -/
def marks (penY : Float32) (text : List Char) (penX : Float32) : List Mark :=
  (face.placements size text penX).flatMap fun p => p.1.marks (p.1.origin p.2 penY)

/-- The images of a line of text are those of its letters. -/
theorem exists_of_mem_placements {text : List Char} {penX : Float32} {p : Glyph × Float32}
    (h : p ∈ face.placements size text penX) : ∃ letter ∈ text, p.1 = face.glyph size letter := by
  induction text generalizing penX with
  | nil => cases h
  | cons letter rest ih =>
    rcases List.mem_cons.1 h with rfl | h
    · exact ⟨letter, List.mem_cons_self, rfl⟩
    · obtain ⟨other, hmem, heq⟩ := ih h
      exact ⟨other, List.mem_cons_of_mem letter hmem, heq⟩

variable {face size} {text : List Char}

/-- A line of text is painted mark by mark, also where sums wrap around. -/
theorem drawLine_eq_foldl (hsmall : ∀ letter ∈ text, (face.glyph size letter).IsSmall) (c : Color)
    (penY penX : Float32) (f : Frame) :
    face.drawLine size c penY text penX f =
      (face.marks size penY text penX).foldl (fun f m => m.paint c f) f := by
  induction text generalizing penX f with
  | nil => rfl
  | cons letter rest ih =>
    obtain ⟨hletter, hrest⟩ := List.forall_mem_cons.1 hsmall
    rw [drawLine, ih hrest, Glyph.paint_eq_foldl hletter]
    exact (List.foldl_append ..).symm

/-- No sum for a line of text overflows if every image has a top and all marks are addressable. -/
theorem isAddressable_iff (hsmall : ∀ letter ∈ text, (face.glyph size letter).IsSmall)
    (penY penX : Float32) :
    face.isAddressable size penY text penX ↔
      (∀ letter ∈ text, (face.glyph size letter).hasTop) ∧
        ∀ m ∈ face.marks size penY text penX, m.IsAddressable := by
  induction text generalizing penX with
  | nil => simp [isAddressable, marks, placements]
  | cons letter rest ih =>
    obtain ⟨hletter, hrest⟩ := List.forall_mem_cons.1 hsmall
    have hmarks : face.marks size penY (letter :: rest) penX =
        (face.glyph size letter).marks ((face.glyph size letter).origin penX penY) ++
          face.marks size penY rest (penX + (face.glyph size letter).advance) := rfl
    rw [isAddressable, Bool.and_eq_true, Bool.and_eq_true, ih hrest,
      Glyph.isAddressable_iff hletter, List.forall_mem_cons, hmarks, List.forall_mem_append]
    tauto

end Face

/-! ### Marks past the words -/

open Binary32 (nearestWord wordLimit)

theorem toInt_ofInt_nearestWord (x : Float32) :
    (Int64.ofInt (nearestWord x)).toInt = nearestWord x :=
  Int64.toInt_ofInt_of_le (Binary32.nearestWord_bounds x).1 (Binary32.nearestWord_bounds x).2

/-- Moving the word nearest to a number keeps to the words, unless that number is past their range
and the word is moved at all. -/
theorem isWord_nearestWord_add_iff (x : Float32) {n : ℕ} (hn : n < 2 ^ 39) :
    IsWord (nearestWord x + n) ↔ (wordLimit ≤ x → n = 0) := by
  rw [IsWord]
  by_cases hx : wordLimit ≤ x
  · have hlast := Binary32.nearestWord_of_le hx
    simp only [hx, forall_true_left]
    omega
  · have hbelow := Binary32.nearestWord_le_of_not_le hx
    have hbounds := Binary32.nearestWord_bounds x
    simp only [hx, false_imp_iff, iff_true]
    omega

/-- When all marks of an image are addressable. -/
theorem Glyph.isAddressable_marks_iff {g : Glyph} (hsmall : g.IsSmall) (penX penY : Float32) :
    (∀ m ∈ g.marks (g.origin penX penY), m.IsAddressable) ↔ ∀ p ∈ g.covered,
      (wordLimit ≤ penX + Float32.ofInt g.left.toInt → p.2 = 0) ∧
        (wordLimit ≤ penY - Float32.ofInt g.top.toInt → p.1 = 0) := by
  rw [marks, List.forall_mem_map]
  refine forall₂_congr fun p hp => ?_
  obtain ⟨hrow, hcolumn⟩ := hsmall.lt_of_mem_cells (mem_covered.1 hp).1
  simp only [Mark.IsAddressable, origin, toInt_ofInt_nearestWord]
  exact and_congr (isWord_nearestWord_add_iff _ hcolumn) (isWord_nearestWord_add_iff _ hrow)

namespace Face

variable (face : Face) (size : Float32)

/-- All marks of a line of text are addressable unless, for a pen that is past the range of words,
some image has a covered pixel after its first column, or its first row.  A program that wraps sums
around paints the line mark by mark in any case.  A program that checks sums does so if all marks
are addressable and every image has a top; otherwise it halts. -/
theorem isAddressable_line_iff (penY : Float32) (text : List Char) (penX : Float32)
    (hsmall : ∀ letter ∈ text, (face.glyph size letter).IsSmall) :
    let marks := face.marks size penY text penX
    ((∀ m ∈ marks, m.IsAddressable) ↔
      ∀ p ∈ face.placements size text penX, ∀ cell ∈ p.1.covered,
        (wordLimit ≤ p.2 + Float32.ofInt p.1.left.toInt → cell.2 = 0) ∧
          (wordLimit ≤ penY - Float32.ofInt p.1.top.toInt → cell.1 = 0)) ∧
      ∀ c f, face.drawLine size c penY text penX f = marks.foldl (fun f m => m.paint c f) f ∧
        face.drawLine? size c penY text penX f =
          if (∀ letter ∈ text, (face.glyph size letter).hasTop) ∧ ∀ m ∈ marks, m.IsAddressable then
            some (marks.foldl (fun f m => m.paint c f) f)
          else none := by
  intro marks
  constructor
  · refine List.forall_mem_flatMap.trans (forall₂_congr fun p hp => ?_)
    obtain ⟨letter, hmem, heq⟩ := face.exists_of_mem_placements size hp
    exact Glyph.isAddressable_marks_iff (heq ▸ hsmall letter hmem) p.2 penY
  · intro c f
    have hpaint := drawLine_eq_foldl hsmall c penY penX f
    refine ⟨hpaint, ?_⟩
    rw [drawLine?, hpaint]
    exact if_congr (isAddressable_iff hsmall penY penX) rfl rfl

/-- A face that has a dash two pixels wide for every character. -/
def dash : Face where
  lineHeight? _ := none
  glyph _ _ := ⟨2, 0, 0, 2, 1, ⟨#[255, 255]⟩⟩

/-- Two dashes near the frame are painted where sums are checked, and from a pen at the limit the
program halts. -/
theorem isAddressable_line_dash :
    (dash.drawLine? 10 .black 5 ['a', 'b'] 3 (.blank 4 4)).isSome ∧
      dash.drawLine? 10 .black wordLimit ['a', 'b'] wordLimit (.blank 4 4) = none := by
  have hsmall (text : List Char) (letter : Char) (_ : letter ∈ text) :
      (dash.glyph 10 letter).IsSmall :=
    ⟨(by decide : 2 ≤ 2 ^ 39), (by decide : 1 ≤ 2 ^ 39)⟩
  have hnear := dash.isAddressable_line_iff 10 5 ['a', 'b'] 3 (hsmall _)
  have hfar := dash.isAddressable_line_iff 10 wordLimit ['a', 'b'] wordLimit (hsmall _)
  have htop : ∀ letter ∈ ['a', 'b'], (dash.glyph 10 letter).hasTop := fun _ _ => rfl
  have hpast := hfar.1.not.2 (by decide)
  constructor
  · rw [(hnear.2 .black (.blank 4 4)).2, if_pos ⟨htop, hnear.1.2 (by decide)⟩]
    rfl
  · rw [(hfar.2 .black (.blank 4 4)).2, if_neg fun h => hpast h.2]

/-- From a pen at `10 ^ 19`, or an infinite one, the second column of a dash is past the words, and
a program that checks sums halts. -/
theorem not_isAddressable_dash :
    (⟨2 ^ 63, 4, 255⟩ : Mark) ∈ dash.marks 10 5 ['-'] 10000000000000000000 ∧
      (⟨2 ^ 63, 4, 255⟩ : Mark) ∈ dash.marks 10 5 ['-'] (1 / 0) ∧
      ¬(⟨2 ^ 63, 4, 255⟩ : Mark).IsAddressable ∧
      dash.drawLine? 10 .black 5 ['-'] 10000000000000000000 (.blank 4 4) = none ∧
      dash.drawLine? 10 .black 5 ['-'] (1 / 0) (.blank 4 4) = none := by
  refine ⟨?_, ?_, ?_, if_neg ?_, if_neg ?_⟩ <;> decide

end Face

end SceneLoop
