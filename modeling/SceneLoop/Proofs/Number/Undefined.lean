import Mathlib
import SceneLoop.Proofs.Number.Order

/-!
# What is not a number, and what is not finite

Packing keeps apart what is a number and what is not.  Arithmetic on what is not a number does not
give a number, and arithmetic that gives a finite number was done on finite numbers.  Rounding gives
a number, so that dividing or multiplying by a finite number other than zero gives one exactly if
there was one before.

## Main results

* `Parts.isNaN_unpack_pack` : packing keeps numbers.
* `Binary64.isNaN_add_of_isNaN`, `Binary64.isNaN_sub_of_isNaN`, `Binary64.isNaN_mul_of_isNaN` :
  arithmetic on what is not a number.
* `Binary64.isFinite_of_add`, `Binary64.isFinite_of_sub`, `Binary64.isFinite_of_mul` : arithmetic
  that gives a finite number.
-/

namespace SceneLoop

open Float.Model (UnpackedFloat Format)
open Float.Model.UnpackedFloat

/-! ### Parts -/

namespace Parts

variable {f : Format}

theorem isNaN_unpack_packComponents {e : BitVec f.exponentBits} (h : e ≠ -1#f.exponentBits)
    (s : Sign) (m : BitVec f.mantissaBitsWithoutImplicit) :
    (unpack f (packComponents f s e m)).isNaN = false := by
  rw [unpack]
  simp only [unpackExponent_packComponents, h, if_false]
  split
  · split <;> rfl
  · rfl

theorem isNaN_unpack_packedInfinity (s : Sign) :
    (unpack f (packedInfinity f s)).isNaN = false := by
  rw [packedInfinity, unpack]
  simp only [unpackExponent_packComponents, unpackMantissa_packComponents, if_true]
  rfl

/-- Packing keeps apart what is a number and what is not. -/
theorem isNaN_unpack_pack (u : UnpackedFloat) : (unpack f (pack f u)).isNaN = u.isNaN := by
  have hbits := f.he
  cases u with
  | notANumber => rw [pack, unpack_packedNaN]
  | infinity s => exact isNaN_unpack_packedInfinity s
  | zero s => rw [pack, unpack_packedZero]
  | finite s m e hm =>
    have hones {b : Nat} (hb : ¬2 ^ f.exponentBits ≤ b + 1) :
        BitVec.ofNat f.exponentBits b ≠ -1#f.exponentBits := by
      intro heq
      have hnat := congrArg BitVec.toNat heq
      rw [BitVec.toNat_ofNat, Nat.mod_eq_of_lt (by omega), BitVec.neg_one_eq_allOnes,
        BitVec.toNat_allOnes] at hnat
      omega
    have hzeros : 0#f.exponentBits ≠ -1#f.exponentBits := by
      refine hones (b := 0) ?_
      have hpow := Nat.pow_le_pow_right (n := 2) (by decide) hbits
      omega
    rw [pack]
    split
    · exact isNaN_unpack_packedInfinity s
    · next hb =>
      split
      · exact isNaN_unpack_packComponents (hones hb) s _
      · exact isNaN_unpack_packComponents hzeros s _

/-! ### Rounding gives a number -/

theorem isNaN_roundWithAccuracy (s : Sign) (m : Nat) (e : Int) (acc : Accuracy) :
    (roundWithAccuracy f s m e acc).isNaN = false := by
  rw [roundWithAccuracy]
  dsimp only
  split <;> rfl

theorem isNaN_normalize (n e : Int) (s : Sign) :
    (UnpackedFloat.normalize f n e s).isNaN = false := by
  rw [UnpackedFloat.normalize]
  split
  · exact isNaN_roundWithAccuracy ..
  · rfl
  · exact isNaN_roundWithAccuracy ..

variable {s : Sign} {m : Nat} {e : Int} {hm : 0 < m}

/-- Dividing by a finite number other than zero. -/
theorem isNaN_div (u : UnpackedFloat) :
    (UnpackedFloat.div f u (.finite s m e hm)).isNaN = u.isNaN := by
  cases u with
  | finite t n g hn => exact isNaN_roundWithAccuracy ..
  | notANumber | infinity | zero => rfl

/-- Multiplying by a finite number other than zero. -/
theorem isNaN_mul (u : UnpackedFloat) :
    (UnpackedFloat.mul f u (.finite s m e hm)).isNaN = u.isNaN := by
  cases u with
  | finite t n g hn => exact isNaN_roundWithAccuracy ..
  | notANumber | infinity | zero => rfl

theorem isNaN_neg (u : UnpackedFloat) : u.neg.isNaN = u.isNaN := by
  cases u <;> rfl

theorem isNaN_ofScientific (m : Nat) (e : Int) :
    (UnpackedFloat.ofScientific f m e).isNaN = false := by
  rw [UnpackedFloat.ofScientific]
  split_ifs
  · rfl
  · rfl
  · rfl
  · exact isNaN_mul _
  · exact isNaN_div _

variable {u v : UnpackedFloat}

/-! ### Arithmetic on what is not a number -/

theorem isNaN_add_of_isNaN (h : u.isNaN ∨ v.isNaN) : (UnpackedFloat.add f u v).isNaN := by
  rcases h with h | h <;> rw [UnpackedFloat.isNaN_iff.1 h]
  · rfl
  · cases u <;> rfl

theorem isNaN_sub_of_isNaN (h : u.isNaN ∨ v.isNaN) : (UnpackedFloat.sub f u v).isNaN := by
  rcases h with h | h <;> rw [UnpackedFloat.isNaN_iff.1 h]
  · rfl
  · cases u <;> rfl

theorem isNaN_mul_of_isNaN (h : u.isNaN ∨ v.isNaN) : (UnpackedFloat.mul f u v).isNaN := by
  rcases h with h | h <;> rw [UnpackedFloat.isNaN_iff.1 h]
  · rfl
  · cases u <;> rfl

/-- Adding to a finite number. -/
theorem isNaN_add_left (hu : u.isFinite) : (UnpackedFloat.add f u v).isNaN = v.isNaN := by
  cases u with
  | notANumber | infinity => cases hu
  | zero s =>
    cases v with
    | zero t => cases s <;> cases t <;> rfl
    | _ => rfl
  | finite s m e hm =>
    cases v with
    | finite => exact isNaN_normalize ..
    | _ => rfl

/-- Adding a finite number. -/
theorem isNaN_add_right (hv : v.isFinite) : (UnpackedFloat.add f u v).isNaN = u.isNaN := by
  cases v with
  | notANumber | infinity => cases hv
  | zero s =>
    cases u with
    | zero t => cases s <;> cases t <;> rfl
    | _ => rfl
  | finite s m e hm =>
    cases u with
    | finite => exact isNaN_normalize ..
    | _ => rfl

/-! ### Arithmetic that gives a finite number -/

theorem isFinite_of_add (h : (UnpackedFloat.add f u v).isFinite) : u.isFinite ∧ v.isFinite := by
  cases u <;> cases v <;> simp_all [UnpackedFloat.add, UnpackedFloat.isFinite]
  -- Of two infinities the result depends on their signs.
  split_ifs at h

theorem isFinite_of_sub (h : (UnpackedFloat.sub f u v).isFinite) : u.isFinite ∧ v.isFinite := by
  cases u <;> cases v <;> simp_all [UnpackedFloat.sub, UnpackedFloat.isFinite]
  -- Of two infinities the result depends on their signs.
  split_ifs at h

theorem isFinite_of_mul (h : (UnpackedFloat.mul f u v).isFinite) : u.isFinite ∧ v.isFinite := by
  cases u <;> cases v <;> simp_all [UnpackedFloat.mul, UnpackedFloat.isFinite]

end Parts

/-! ### Doubles -/

namespace Binary64

variable {x y : Float}

theorem isNaN_ofParts (u : UnpackedFloat) : (ofParts u).isNaN = u.isNaN :=
  Parts.isNaN_unpack_pack u

theorem isFinite_of_ofParts {u : UnpackedFloat} (h : (ofParts u).isFinite) : u.isFinite := by
  cases u with
  | notANumber => exact absurd h (by decide)
  | infinity s => cases s <;> exact absurd h (by decide)
  | zero | finite => rfl

theorem isNaN_iff : x.isNaN ↔ parts x = .notANumber := by
  rw [isNaN_eq, UnpackedFloat.isNaN_iff]

theorem not_le_of_isNaN (h : x.isNaN ∨ y.isNaN) : ¬x ≤ y := by
  intro hle
  obtain ⟨hx, hy⟩ := isNaN_of_le hle
  exact h.elim (Bool.eq_false_iff.1 hx) (Bool.eq_false_iff.1 hy)

theorem not_lt_of_isNaN (h : x.isNaN ∨ y.isNaN) : ¬x < y :=
  fun hlt => not_le_of_isNaN h (le_of_lt hlt)

/-- What is not a number is the same value everywhere. -/
theorem eq_of_isNaN (hx : x.isNaN) (hy : y.isNaN) : x = y := by
  rw [Float.isNaN_eq_decide_eq_nan, decide_eq_true_eq] at hx hy
  rw [hx, hy]

theorem isNaN_add_left (hx : x.isFinite) : (x + y).isNaN = y.isNaN :=
  (isNaN_ofParts _).trans (Parts.isNaN_add_left hx)

theorem isNaN_add_right (hy : y.isFinite) : (x + y).isNaN = x.isNaN :=
  (isNaN_ofParts _).trans (Parts.isNaN_add_right hy)

theorem isNaN_add_of_isNaN (h : x.isNaN ∨ y.isNaN) : (x + y).isNaN :=
  (isNaN_ofParts _).trans (Parts.isNaN_add_of_isNaN h)

theorem isNaN_sub_of_isNaN (h : x.isNaN ∨ y.isNaN) : (x - y).isNaN :=
  (isNaN_ofParts _).trans (Parts.isNaN_sub_of_isNaN h)

theorem isNaN_mul_of_isNaN (h : x.isNaN ∨ y.isNaN) : (x * y).isNaN :=
  (isNaN_ofParts _).trans (Parts.isNaN_mul_of_isNaN h)

theorem isNaN_sqrt_of_isNaN (h : x.isNaN) : x.sqrt.isNaN := by
  have hsqrt : x.sqrt = ofParts (UnpackedFloat.sqrt Format.binary64 (parts x)) := rfl
  rw [hsqrt, isNaN_ofParts, isNaN_iff.1 h]
  rfl

theorem isFinite_of_add (h : (x + y).isFinite) : x.isFinite ∧ y.isFinite :=
  Parts.isFinite_of_add (f := Format.binary64) (isFinite_of_ofParts h)

theorem isFinite_of_sub (h : (x - y).isFinite) : x.isFinite ∧ y.isFinite :=
  Parts.isFinite_of_sub (f := Format.binary64) (isFinite_of_ofParts h)

theorem isFinite_of_mul (h : (x * y).isFinite) : x.isFinite ∧ y.isFinite :=
  Parts.isFinite_of_mul (f := Format.binary64) (isFinite_of_ofParts h)

end Binary64

end SceneLoop
