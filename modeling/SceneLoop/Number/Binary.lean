/-!
# Exact operations on binary floating-point numbers

Rounding to an integer, the remainder of a division, and the passage between the two IEEE
formats, each computed on the sign, mantissa and exponent of its argument.  The value of a
finite number is `± m · 2 ^ e`, so every operation here is integer arithmetic followed by at
most one rounding to the format.

## Main definitions

* `Binary.floorOf`, `Binary.nearestOf` : the integers next to `± m · 2 ^ e`.
* `Binary64.floor`, `Binary64.ceil` : rounding to an integral number of the same format.
* `Binary64.remainder` : the remainder of the truncated quotient, with the sign of the dividend.
* `Binary64.toSingle`, `Binary32.toDouble` : change of format.
* `Binary64.larger`, `Binary64.smaller`, `Binary64.clamp` : order operations that say what
  happens to a value that is not a number.
-/

namespace SceneLoop

open Float.Model (UnpackedFloat Format)
open Float.Model.UnpackedFloat (Sign)

-- A power of a number is the one that the arithmetic of the core library knows, also in a module
-- that sees the powers of a monoid.
attribute [default_instance 20000, scoped instance (high)] instPowNat

namespace Binary

/-- The greatest integer not above `± m · 2 ^ e`. -/
def floorOf (s : Sign) (m : Nat) : Int → Int
  | .ofNat k => s.apply m * 2 ^ k
  | .negSucc k => s.apply m >>> (k + 1)

/-- The integer nearest to `± m · 2 ^ e`; a half goes away from zero. -/
def nearestOf (s : Sign) (m : Nat) : Int → Int
  | .ofNat k => s.apply m * 2 ^ k
  | .negSucc k => s.apply ((m + 2 ^ k) >>> (k + 1) : Nat)

/-- The integer of a signed 64-bit word closest to `z`. -/
def toWord64 (z : Int) : Int :=
  max (-2 ^ 63) (min z (2 ^ 63 - 1))

/-- The natural number of an unsigned 64-bit word closest to `z`. -/
def toNatural64 (z : Int) : UInt64 :=
  UInt64.ofNat (min z.toNat (2 ^ 64 - 1))

/-- Apply `round` to a finite number and clamp the result to a signed 64-bit word.  An infinity
goes to the end of the range and what is not a number to zero. -/
def toWordBy (round : Sign → Nat → Int → Int) : UnpackedFloat → Int
  | .notANumber => 0
  | .zero _ => 0
  | .infinity .negative => -2 ^ 63
  | .infinity .positive => 2 ^ 63 - 1
  | .finite s m e _ => toWord64 (round s m e)

/-- A word that `toWordBy` returns is in the signed 64-bit range. -/
theorem toWord64_bounds (z : Int) : -2 ^ 63 ≤ toWord64 z ∧ toWord64 z ≤ 2 ^ 63 - 1 := by
  unfold toWord64
  omega

end Binary

namespace Binary64

/-- The sign, mantissa and exponent of a number. -/
def parts (x : Float) : UnpackedFloat :=
  x.toModel.unpack

/-- The number with the given parts, which fit the format. -/
def ofParts (u : UnpackedFloat) : Float :=
  .ofModel (.pack u)

/-- Positive infinity. -/
def infinity : Float := .ofBits 0x7FF0000000000000

/-- The value that is not a number. -/
def notANumber : Float := .ofBits 0x7FF8000000000000

/-- A full turn in radians. -/
def fullTurn : Float := .ofBits 0x401921FB54442D18

/-- Whether the sign of `x` is negative; zero has a sign too. -/
def isNegative (x : Float) : Bool :=
  match parts x with
  | .infinity .negative | .zero .negative | .finite .negative .. => true
  | _ => false

/-- The greatest integral number not above `x`. -/
def floor (x : Float) : Float :=
  match parts x with
  | .finite s m e _ => .ofInt (Binary.floorOf s m e)
  | _ => x

/-- The smallest integral number not below `x`. -/
def ceil (x : Float) : Float :=
  -(floor (-x))

/-- The floor of `x` as a signed 64-bit word. -/
def floorWord (x : Float) : Int :=
  Binary.toWordBy Binary.floorOf (parts x)

/-- The integer nearest to `x` as an unsigned 64-bit word; a half goes away from zero. -/
def nearestNatural (x : Float) : UInt64 :=
  match parts x with
  | .finite s m e _ => Binary.toNatural64 (Binary.nearestOf s m e)
  | .infinity .positive => UInt64.ofNat (2 ^ 64 - 1)
  | _ => 0

/-- The integral part of `x`, if `x` is an integer. -/
def integer? (x : Float) : Option Int :=
  match parts x with
  | .zero _ => some 0
  | .finite s m (.ofNat k) _ => some (s.apply m * 2 ^ k)
  | .finite s m (.negSucc k) _ =>
    if m % 2 ^ (k + 1) = 0 then some (s.apply (m >>> (k + 1) : Nat)) else none
  | _ => none

/-- The remainder of `x` by `y` for the quotient truncated toward zero, exactly. -/
def remainder (x y : Float) : Float :=
  match parts x, parts y with
  | .finite s m e _, .finite _ n f _ =>
    let g := min e f
    let r := (m * 2 ^ (e - g).toNat) % (n * 2 ^ (f - g).toNat)
    if r = 0 then ofParts (.zero s) else ofParts (UnpackedFloat.round Format.binary64 s r g)
  | .finite .., .infinity _ => x
  | .zero _, .finite .. | .zero _, .infinity _ => x
  | _, _ => notANumber

/-- The larger of two numbers; what is not a number gives way, and of two zeros the positive one
is larger. -/
def larger (x y : Float) : Float :=
  if x.isNaN then y
  else if y.isNaN then x
  else if x < y then y
  else if y < x then x
  else if isNegative x then y
  else x

/-- The smaller of two numbers; what is not a number gives way, and of two zeros the negative one
is smaller. -/
def smaller (x y : Float) : Float :=
  if x.isNaN then y
  else if y.isNaN then x
  else if x < y then x
  else if y < x then y
  else if isNegative x then x
  else y

/-- Move `x` into `[lo, hi]`; what is not a number stays. -/
@[inline] def clamp (x lo hi : Float) : Float :=
  if x < lo then lo else if hi < x then hi else x

/-- The single-precision number nearest to `x`. -/
def toSingle (x : Float) : Float32 :=
  match parts x with
  | .finite s m e _ => .ofModel (.pack (UnpackedFloat.round Format.binary32 s m e))
  | u => .ofModel (.pack u)

end Binary64

namespace Binary32

/-- The sign, mantissa and exponent of a number. -/
def parts (x : Float32) : UnpackedFloat :=
  x.toModel.unpack

/-- The same value in double precision. -/
def toDouble (x : Float32) : Float :=
  match parts x with
  | .finite s m e _ => Binary64.ofParts (UnpackedFloat.round Format.binary64 s m e)
  | u => Binary64.ofParts u

/-- The integer nearest to `x` as a signed 64-bit word; a half goes away from zero. -/
def nearestWord (x : Float32) : Int :=
  Binary.toWordBy Binary.nearestOf (parts x)

/-- Move `x` into `[lo, hi]`; what is not a number stays. -/
@[inline] def clamp (x lo hi : Float32) : Float32 :=
  if x < lo then lo else if hi < x then hi else x

/-- The byte nearest to `x`; a half goes up, and `x` is first moved into `[0, 255]`. -/
@[inline] def nearestByte (x : Float32) : UInt8 :=
  let whole := x.toUInt8
  if whole = 255 then whole
  else if 0.5 ≤ x - whole.toFloat32 then whole + 1
  else whole

end Binary32

end SceneLoop
