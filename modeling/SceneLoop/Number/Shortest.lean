import SceneLoop.Number.Binary

/-!
# Shortest decimal digits of a binary number

A finite number `m · 2 ^ e` stands for an interval of reals, those that round to it.  Its shortest
decimal is found on the coarsest grid `10 ^ k` that has a point in the interval; of two points on
that grid the nearer one is taken.  A grid has a point in the interval only if one of the two grid
points next to the value lies in it, so two candidates on each grid suffice.

## Main definitions

* `Decimal` : a natural number times a power of ten.
* `Neighbourhood` : the reals that round to a given number.
* `Decimal.shortest` : the decimal with the fewest digits that reads back to the number.
* `Decimal.fixed` : a number rounded to a fixed count of decimal places.
* `Binary64.toText`, `Binary32.toText` : positional text of a number.
-/

namespace SceneLoop

open Float.Model (UnpackedFloat)
open Float.Model.UnpackedFloat (Sign)

/-- The value `digits · 10 ^ exponent`. -/
structure Decimal where
  /-- All significant digits, read as one natural number. -/
  digits : Nat
  /-- The power of ten of the last digit. -/
  exponent : Int
deriving DecidableEq, Repr

/-- The reals that round to a binary number, in units of `2 ^ unit`. -/
structure Neighbourhood where
  /-- The midpoint between the number and its lower neighbour. -/
  low : Nat
  /-- The number itself. -/
  mid : Nat
  /-- The midpoint between the number and its upper neighbour. -/
  high : Nat
  /-- The exponent of the power of two that the three are counted in. -/
  unit : Int
  /-- Whether the two midpoints belong to the interval. -/
  closed : Bool

namespace Neighbourhood

/-- The neighbourhood of `m · 2 ^ e`.  Ties go to the even mantissa, so the ends belong to it when
`m` is even.  `narrow` says that the lower neighbour is only half as far away as the upper one. -/
def around (m : Nat) (e : Int) (narrow : Bool) : Neighbourhood where
  low := if narrow then 4 * m - 1 else 4 * m - 2
  mid := 4 * m
  high := 4 * m + 2
  unit := e - 2
  closed := m % 2 = 0

/-- The factor that turns a count of units into a count of the common measure of the units and
the grid `10 ^ k`. -/
def unitScale (n : Neighbourhood) (k : Int) : Nat :=
  2 ^ n.unit.toNat * 10 ^ (-k).toNat

/-- The factor that turns a count of steps of the grid `10 ^ k` into a count of the common
measure. -/
def gridScale (n : Neighbourhood) (k : Int) : Nat :=
  10 ^ k.toNat * 2 ^ (-n.unit).toNat

/-- Whether `d · 10 ^ k` lies in the interval. -/
def contains (n : Neighbourhood) (k : Int) (d : Nat) : Bool :=
  let point := d * n.gridScale k
  let low := n.low * n.unitScale k
  let high := n.high * n.unitScale k
  if n.closed then low ≤ point && point ≤ high else low < point && point < high

/-- The point of the grid `10 ^ k` in the interval that is nearest to the number. -/
def nearestOn? (n : Neighbourhood) (k : Int) : Option Nat :=
  let value := n.mid * n.unitScale k
  let step := n.gridScale k
  let below := value / step
  match n.contains k below, n.contains k (below + 1) with
  | true, true => some (if 2 * value < (2 * below + 1) * step then below else below + 1)
  | true, false => some below
  | false, true => some (below + 1)
  | false, false => none

/-- The exponent of the leading decimal digit of the number. -/
def leadingExponent (n : Neighbourhood) : Int :=
  let guess := (n.mid.log2 + n.unit) * 30103 / 100000
  if n.gridScale (guess + 1) ≤ n.mid * n.unitScale (guess + 1) then guess + 1 else guess

end Neighbourhood

namespace Decimal

/-- Drop the zeros at the end of a nonzero digit string. -/
def trimZeros (d : Decimal) : Decimal :=
  if h : d.digits ≠ 0 ∧ d.digits % 10 = 0 then
    trimZeros ⟨d.digits / 10, d.exponent + 1⟩
  else d
termination_by d.digits
decreasing_by omega

/-- The decimal with the fewest digits in a neighbourhood, and the nearest of those.  Seventeen
digits are enough for both formats. -/
def shortest (n : Neighbourhood) : Decimal :=
  let lead := n.leadingExponent
  let found := (List.range 17).findSome? fun (i : Nat) =>
    (n.nearestOn? (lead - i)).map fun d => (⟨d, lead - i⟩ : Decimal)
  trimZeros (found.getD ⟨n.mid * n.unitScale 0 / n.gridScale 0, 0⟩)

/-- The number `m · 2 ^ e` in units of `10 ^ (-places)`, to the nearest; a tie goes to the even
count. -/
def fixed (places m : Nat) : Int → Nat
  | .ofNat k => m * 2 ^ k * 10 ^ places
  | .negSucc k =>
    let scaled := m * 10 ^ places
    let step := 2 ^ (k + 1)
    let below := scaled / step
    let twice := 2 * (scaled % step)
    if twice < step then below
    else if step < twice then below + 1
    else below + below % 2

/-- A digit string with a point before its last `places` digits, and at least one digit before
the point. -/
def placePoint (places digits : Nat) : String :=
  let text := toString digits
  if places = 0 then text
  else
    let padded := "".pushn '0' (places + 1 - text.length) ++ text
    let whole := padded.length - places
    String.ofList (padded.toList.take whole) ++ "." ++ String.ofList (padded.toList.drop whole)

/-- Positional text: all digits, no exponent, and a point only if there is a fraction. -/
def positional (d : Decimal) : String :=
  match d.exponent with
  | .ofNat k => (toString d.digits).pushn '0' k
  | .negSucc k => placePoint (k + 1) d.digits

/-- The exponent of the leading digit. -/
def magnitude (d : Decimal) : Int :=
  (toString d.digits).length + d.exponent - 1

end Decimal

namespace Binary

/-- The text of a number, given the text of a positive finite one. -/
def textBy (finite : Nat → Int → String) : UnpackedFloat → String
  | .notANumber => "NaN"
  | .infinity .positive => "inf"
  | .infinity .negative => "-inf"
  | .zero .positive => "0"
  | .zero .negative => "-0"
  | .finite .positive m e _ => finite m e
  | .finite .negative m e _ => "-" ++ finite m e

end Binary

namespace Binary64

/-- The shortest decimal that reads back to the double `m · 2 ^ e`. -/
def shortest (m : Nat) (e : Int) : Decimal :=
  .shortest (.around m e (m == 2 ^ 52 && -1074 < e))

/-- Positional text with the fewest digits that read back. -/
def toText (x : Float) : String :=
  Binary.textBy (fun m e => (shortest m e).positional) (parts x)

end Binary64

namespace Binary32

/-- The shortest decimal that reads back to the single `m · 2 ^ e`. -/
def shortest (m : Nat) (e : Int) : Decimal :=
  .shortest (.around m e (m == 2 ^ 23 && -149 < e))

/-- Positional text with the fewest digits that read back. -/
def toText (x : Float32) : String :=
  Binary.textBy (fun m e => (shortest m e).positional) (parts x)

end Binary32

end SceneLoop
