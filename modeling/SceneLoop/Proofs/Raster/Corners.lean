import Mathlib
import SceneLoop.Raster.Path
import SceneLoop.Proofs.Number.Bounds
import SceneLoop.Proofs.Number.Extrema

/-!
# The extent of corners

The four sides of an extent are the least and the greatest places of its corners in each direction.
So the extent depends on which corners there are, and neither on their order nor on how often each
of them occurs; a coordinate that is not a number counts for nothing.  Within a finite extent every
coordinate that is a number is finite.

## Main definitions

* `Bounds.IsExtent` : the extent of some points, by the places of its sides.

## Main results

* `Bounds.isExtent_ofPoints?` : the extent that is found is the extent.
* `Bounds.IsExtent.unique` : there is only one.
* `Bounds.ofPoints?_congr` : the extent depends on which points there are.
* `Bounds.IsExtent.isFinite_x`, `Bounds.IsExtent.isFinite_y` : coordinates within a finite extent.
-/

namespace SceneLoop

open Binary64

namespace Bounds

/-- The extent of some points: its sides have the least and the greatest places. -/
structure IsExtent (b : Bounds) (ps : List Point) : Prop where
  left : ∀ k, k ≤ lowPlace b.left ↔ ∀ p ∈ ps, k ≤ lowPlace p.x
  top : ∀ k, k ≤ lowPlace b.top ↔ ∀ p ∈ ps, k ≤ lowPlace p.y
  right : ∀ k, highPlace b.right ≤ k ↔ ∀ p ∈ ps, highPlace p.x ≤ k
  bottom : ∀ k, highPlace b.bottom ≤ k ↔ ∀ p ∈ ps, highPlace p.y ≤ k

variable {b b' : Bounds} {ps qs : List Point}

theorem isExtent_ofPoint (p : Point) : (ofPoint p).IsExtent [p] := by
  constructor <;> simp [ofPoint]

theorem IsExtent.insert (h : b.IsExtent ps) (p : Point) : (b.insert p).IsExtent (p :: ps) where
  left k := by
    rw [Bounds.insert, lowPlace_smaller, le_min_iff, h.left, List.forall_mem_cons, and_comm]
  top k := by
    rw [Bounds.insert, lowPlace_smaller, le_min_iff, h.top, List.forall_mem_cons, and_comm]
  right k := by
    rw [Bounds.insert, highPlace_larger, max_le_iff, h.right, List.forall_mem_cons, and_comm]
  bottom k := by
    rw [Bounds.insert, highPlace_larger, max_le_iff, h.bottom, List.forall_mem_cons, and_comm]

/-- The extent does not depend on the order of the points and on how often they occur. -/
theorem IsExtent.congr (h : b.IsExtent ps) (hmem : ∀ p, p ∈ ps ↔ p ∈ qs) : b.IsExtent qs where
  left k := by simp only [h.left, hmem]
  top k := by simp only [h.top, hmem]
  right k := by simp only [h.right, hmem]
  bottom k := by simp only [h.bottom, hmem]

theorem IsExtent.foldl (h : b.IsExtent ps) (qs : List Point) :
    (qs.foldl Bounds.insert b).IsExtent (ps ++ qs) := by
  induction qs generalizing b ps with
  | nil => rwa [List.append_nil]
  | cons q qs ih =>
    refine (ih (h.insert q)).congr fun p => ?_
    simp only [List.cons_append, List.mem_cons, List.mem_append]
    exact or_left_comm

/-- The extent that is found is the extent. -/
theorem isExtent_ofPoints? (h : ofPoints? ps = some b) : b.IsExtent ps := by
  cases ps with
  | nil => cases h
  | cons p rest =>
    cases h
    exact (isExtent_ofPoint p).foldl rest

/-- Some points have only one extent. -/
theorem IsExtent.unique (h : b.IsExtent ps) (h' : b'.IsExtent ps) : b = b' := by
  obtain ⟨left, top, right, bottom⟩ := b
  obtain ⟨left', top', right', bottom'⟩ := b'
  obtain rfl : left = left' :=
    lowPlace_injective (eq_of_forall_le_iff fun k => (h.left k).trans (h'.left k).symm)
  obtain rfl : top = top' :=
    lowPlace_injective (eq_of_forall_le_iff fun k => (h.top k).trans (h'.top k).symm)
  obtain rfl : right = right' :=
    highPlace_injective (eq_of_forall_ge_iff fun k => (h.right k).trans (h'.right k).symm)
  obtain rfl : bottom = bottom' :=
    highPlace_injective (eq_of_forall_ge_iff fun k => (h.bottom k).trans (h'.bottom k).symm)
  rfl

theorem exists_ofPoints? (h : ps ≠ []) : ∃ b, ofPoints? ps = some b := by
  cases ps with
  | nil => exact absurd rfl h
  | cons p rest => exact ⟨_, rfl⟩

/-- Points that have the extent of others have it found. -/
theorem ofPoints?_eq_of_isExtent (hps : ps ≠ []) (hqs : qs ≠ [])
    (h : ∀ b : Bounds, b.IsExtent qs → b.IsExtent ps) : ofPoints? ps = ofPoints? qs := by
  obtain ⟨b, hb⟩ := exists_ofPoints? hps
  obtain ⟨b', hb'⟩ := exists_ofPoints? hqs
  rw [hb, hb', (isExtent_ofPoints? hb).unique (h b' (isExtent_ofPoints? hb'))]

/-- The extent depends on which points there are. -/
theorem ofPoints?_congr (h : ∀ p, p ∈ ps ↔ p ∈ qs) : ofPoints? ps = ofPoints? qs := by
  have hnil : ps = [] ↔ qs = [] := by
    simp only [List.eq_nil_iff_forall_not_mem, h]
  by_cases hps : ps = []
  · rw [hps, hnil.1 hps]
  · exact ofPoints?_eq_of_isExtent hps (mt hnil.2 hps) fun b hb => hb.congr fun p => (h p).symm

/-! ### Finite extents -/

theorem isFinite_iff : b.isFinite ↔
    b.left.isFinite ∧ b.top.isFinite ∧ b.right.isFinite ∧ b.bottom.isFinite := by
  simp [isFinite, and_assoc]

/-- What lies between finite places and is a number is finite. -/
theorem isFinite_of_places {x lo hi : Float} (hlo : lo.isFinite) (hhi : hi.isFinite)
    (hx : x.isNaN = false) (hleft : lowPlace lo ≤ lowPlace x)
    (hright : highPlace x ≤ highPlace hi) : x.isFinite := by
  have hvalue {y z : Float} (h : place y ≤ place z) : value y ≤ value z :=
    (Prod.Lex.toLex_le_toLex.1 h).elim le_of_lt fun h => h.1.le
  rw [lowPlace_of_number (isNaN_of_isFinite hlo), lowPlace_of_number hx, WithTop.coe_le_coe]
    at hleft
  rw [highPlace_of_number (isNaN_of_isFinite hhi), highPlace_of_number hx, WithBot.coe_le_coe]
    at hright
  exact isFinite_of_mem_uIcc hx hlo hhi
    (Set.mem_uIcc.2 (.inl ⟨hvalue hleft, hvalue hright⟩))

theorem IsExtent.isFinite_x (h : b.IsExtent ps) (hb : b.isFinite) {p : Point} (hp : p ∈ ps)
    (hx : p.x.isNaN = false) : p.x.isFinite := by
  obtain ⟨hleft, -, hright, -⟩ := isFinite_iff.1 hb
  exact isFinite_of_places hleft hright hx ((h.left _).1 le_rfl p hp) ((h.right _).1 le_rfl p hp)

theorem IsExtent.isFinite_y (h : b.IsExtent ps) (hb : b.isFinite) {p : Point} (hp : p ∈ ps)
    (hy : p.y.isNaN = false) : p.y.isFinite := by
  obtain ⟨-, htop, -, hbottom⟩ := isFinite_iff.1 hb
  exact isFinite_of_places htop hbottom hy ((h.top _).1 le_rfl p hp) ((h.bottom _).1 le_rfl p hp)

/-- An extent that is finite after its sides were moved was finite before. -/
theorem isFinite_of_grow {pad : Float} (h : (b.grow pad).isFinite) : b.isFinite := by
  obtain ⟨hleft, htop, hright, hbottom⟩ := isFinite_iff.1 h
  exact isFinite_iff.2 ⟨(isFinite_of_sub hleft).1, (isFinite_of_sub htop).1,
    (isFinite_of_add hright).1, (isFinite_of_add hbottom).1⟩

end Bounds

end SceneLoop
