import Mathlib
import SceneLoop.Number.Reading
import SceneLoop.Proofs.Number.Undefined

/-!
# Single precision

Numbers in single precision are compared and computed with as doubles are.  The only numeral whose
value is not a number is the one that says so, also after a division by a finite number other than
zero; and a number that is moved into an interval lies in it.

## Main results

* `Binary32.not_lt_iff` : of two numbers, one is below the other or at least as large.
* `Binary32.clamp_mem` : a number that is moved into an interval lies in it.
* `Binary32.isNaN_div` : dividing by a finite number other than zero.
* `Numeral.isNaN_toSingle`, `Numeral.ofChars?_eq_undefined_iff` : which numerals, and which texts,
  have no number as their value.
-/

namespace SceneLoop

open Float.Model (UnpackedFloat Format)
open Float.Model.UnpackedFloat

namespace Binary32

variable {x y lo hi : Float32}

/-! ### Comparing -/

theorem lt_iff : x < y ↔ UnpackedFloat.compare (parts x) (parts y) = some .lt := by
  change decide ((UnpackedFloat.compare (parts x) (parts y) == some .lt) = true) = true ↔ _
  rw [decide_eq_true_iff, beq_iff_eq]

theorem le_iff : x ≤ y ↔ ∃ o, UnpackedFloat.compare (parts x) (parts y) = some o ∧ o.isLE := by
  change decide ((UnpackedFloat.compare (parts x) (parts y)).any (·.isLE) = true) = true ↔ _
  rw [decide_eq_true_iff, Option.any_eq_true]

theorem isNaN_eq (x : Float32) : x.isNaN = (parts x).isNaN :=
  rfl

theorem isNaN_of_le (h : x ≤ y) : x.isNaN = false ∧ y.isNaN = false := by
  obtain ⟨o, ho, -⟩ := le_iff.1 h
  exact Binary64.isNaN_eq_false_of_compare ho

/-- Of two numbers, one is below the other or at least as large. -/
theorem not_lt_iff (hx : x.isNaN = false) (hy : y.isNaN = false) : ¬x < y ↔ y ≤ x := by
  rw [lt_iff, le_iff]
  exact Binary64.compare_ne_lt_iff hx hy

theorem le_refl (h : x.isNaN = false) : x ≤ x :=
  le_iff.2 ⟨.eq, Binary64.compare_self h, rfl⟩

/-! ### Moving into an interval -/

/-- A number that is moved into an interval lies in it. -/
theorem clamp_mem (hx : x.isNaN = false) (h : lo ≤ hi) :
    lo ≤ clamp x lo hi ∧ clamp x lo hi ≤ hi := by
  obtain ⟨hlo, hhi⟩ := isNaN_of_le h
  rw [clamp]
  split
  · exact ⟨le_refl hlo, h⟩
  · next hbelow =>
    split
    · exact ⟨h, le_refl hhi⟩
    · next habove => exact ⟨(not_lt_iff hx hlo).1 hbelow, (not_lt_iff hhi hx).1 habove⟩

/-- What is not a number stays when it is moved into an interval. -/
theorem clamp_of_isNaN (hx : x.isNaN) : clamp x lo hi = x := by
  have hundefined : parts x = .notANumber := by rwa [isNaN_eq, UnpackedFloat.isNaN_iff] at hx
  have hlo : ¬x < lo := by simp [lt_iff, hundefined, UnpackedFloat.compare]
  have hhi : ¬hi < x := by
    rw [lt_iff, hundefined]
    cases parts hi <;> simp [UnpackedFloat.compare]
  rw [clamp, if_neg hlo, if_neg hhi]

/-! ### Arithmetic -/

theorem isNaN_ofModel_pack (u : UnpackedFloat) :
    (Float32.ofModel (.pack u)).isNaN = u.isNaN :=
  Parts.isNaN_unpack_pack u

theorem isNaN_neg (x : Float32) : (-x).isNaN = x.isNaN :=
  (isNaN_ofModel_pack (parts x).neg).trans (Parts.isNaN_neg _)

/-- The finite numbers other than zero. -/
def IsFiniteNonzero (x : Float32) : Prop :=
  ∃ s m e hm, parts x = .finite s m e hm

/-- Dividing by a finite number other than zero. -/
theorem isNaN_div (hy : IsFiniteNonzero y) (x : Float32) : (x / y).isNaN = x.isNaN := by
  obtain ⟨s, m, e, hm, hy⟩ := hy
  have hdiv : x / y = .ofModel (.pack (UnpackedFloat.div Format.binary32 (parts x) (parts y))) :=
    rfl
  rw [hdiv, isNaN_ofModel_pack, hy, Parts.isNaN_div, isNaN_eq]

/-- Multiplying by a finite number other than zero. -/
theorem isNaN_mul (hy : IsFiniteNonzero y) (x : Float32) : (x * y).isNaN = x.isNaN := by
  obtain ⟨s, m, e, hm, hy⟩ := hy
  have hmul : x * y = .ofModel (.pack (UnpackedFloat.mul Format.binary32 (parts x) (parts y))) :=
    rfl
  rw [hmul, isNaN_ofModel_pack, hy, Parts.isNaN_mul, isNaN_eq]

/-! ### Numerals -/

theorem isNaN_toFloat32 (n : UInt64) : n.toFloat32.isNaN = false :=
  (isNaN_ofModel_pack (UnpackedFloat.ofUInt64 Format.binary32 n)).trans
    (Parts.isNaN_normalize ..)

theorem isFiniteNonzero_powersOfTen (e : Fin Float32.exactlyRepresentablePowersOfTen.size) :
    IsFiniteNonzero Float32.exactlyRepresentablePowersOfTen[e] := by
  change Fin 11 at e
  fin_cases e <;> exact ⟨_, _, _, _, rfl⟩

theorem isNaN_ofScientific (m : Nat) (s : Bool) (e : Nat) :
    (Float32.ofScientific m s e).isNaN = false := by
  rw [Float32.ofScientific]
  split
  · next h =>
    -- Few digits and a small exponent: one division or product by a power of ten is enough.
    have hpower := isFiniteNonzero_powersOfTen ⟨e, Nat.lt_succ_of_le h.2⟩
    dsimp only
    split
    · exact (isNaN_div hpower _).trans (isNaN_toFloat32 _)
    · exact (isNaN_mul hpower _).trans (isNaN_toFloat32 _)
  · exact (isNaN_ofModel_pack _).trans (Parts.isNaN_ofScientific ..)

theorem isNaN_ofDecimal (digits : Nat) (exponent : Int) :
    (Binary32.ofDecimal digits exponent).isNaN = false := by
  rw [Binary32.ofDecimal]
  split
  · decide
  · decide
  · exact isNaN_ofScientific ..

end Binary32

/-- The only numeral whose value is not a number is the one that says so. -/
theorem Numeral.isNaN_toSingle (n : Numeral) : n.toSingle.isNaN ↔ n = .undefined := by
  cases n with
  | decimal negative d e =>
    refine iff_of_false (Bool.eq_false_iff.1 ?_) nofun
    cases negative
    · exact Binary32.isNaN_ofDecimal d e
    · exact (Binary32.isNaN_neg _).trans (Binary32.isNaN_ofDecimal d e)
  | infinite negative => cases negative <;> exact iff_of_false (by decide) nofun
  | undefined => exact iff_of_true (by decide) rfl

/-- The only texts whose numeral is not a number are those that say so, after a sign or without
one. -/
theorem Numeral.ofChars?_eq_undefined_iff {cs : List Char} :
    Numeral.ofChars? cs = some .undefined ↔
      (Numeral.splitSign cs).2.map Char.toLower = "nan".toList := by
  have hdecimal (negative : Bool) (ds : List Char) :
      Numeral.decimalOf? negative ds ≠ some .undefined := by
    rw [Numeral.decimalOf?]
    dsimp only
    split
    · nofun
    split
    · nofun
    · split
      · simp
      · nofun
  rw [Numeral.ofChars?]
  dsimp only
  split
  · next h => simp [h]
  · next h => simp [h]
  · next h => simp [h]
  · next h => exact iff_of_false (hdecimal _ _) h

end SceneLoop
