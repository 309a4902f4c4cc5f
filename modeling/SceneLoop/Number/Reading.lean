import SceneLoop.Number.Binary

/-!
# Reading decimal numbers

The text of a number is an optional sign followed by `inf`, `infinity`, `nan` in any letter case,
or by decimal digits with an optional point and an optional exponent.  At least one digit stands
before or after the point, and nothing else is allowed.

## Main definitions

* `Numeral` : what a numeric text denotes, before rounding.
* `Numeral.ofChars?` : the reader.
* `Binary64.ofDecimal`, `Binary32.ofDecimal` : the nearest number to `digits · 10 ^ exponent`.
* `Numeral.toDouble`, `Numeral.toSingle` : the nearest number to a numeral.
-/

namespace SceneLoop

/-- What a numeric text denotes. -/
inductive Numeral where
  /-- The value `± digits · 10 ^ exponent`. -/
  | decimal (negative : Bool) (digits : Nat) (exponent : Int)
  /-- A signed infinity. -/
  | infinite (negative : Bool)
  /-- Not a number. -/
  | undefined
deriving DecidableEq, Repr

namespace Numeral

/-- The natural number with the given decimal digits. -/
def ofDigits (ds : List Char) : Nat :=
  ds.foldl (fun n c => 10 * n + (c.toNat - '0'.toNat)) 0

/-- Split a sign off. -/
def splitSign : List Char → Bool × List Char
  | '-' :: rest => (true, rest)
  | '+' :: rest => (false, rest)
  | rest => (false, rest)

/-- An integer exponent: a sign and at least one digit. -/
def exponentOf? (cs : List Char) : Option Int :=
  let (negative, ds) := splitSign cs
  if ds.isEmpty || !ds.all Char.isDigit then none
  else if negative then some (-(ofDigits ds)) else some (ofDigits ds)

/-- The digits before and after an optional point, and what follows them. -/
def splitDigits (cs : List Char) : List Char × List Char × List Char :=
  let whole := cs.takeWhile Char.isDigit
  match cs.dropWhile Char.isDigit with
  | '.' :: rest => (whole, rest.takeWhile Char.isDigit, rest.dropWhile Char.isDigit)
  | rest => (whole, [], rest)

/-- An unsigned decimal numeral. -/
def decimalOf? (negative : Bool) (cs : List Char) : Option Numeral :=
  let (whole, fraction, rest) := splitDigits cs
  if whole.isEmpty && fraction.isEmpty then none
  else
    let value (exponent : Int) : Numeral :=
      .decimal negative (ofDigits (whole ++ fraction)) (exponent - fraction.length)
    match rest with
    | [] => some (value 0)
    | c :: exponent => if c = 'e' ∨ c = 'E' then (exponentOf? exponent).map value else none

/-- The numeral that a whole text denotes. -/
def ofChars? (cs : List Char) : Option Numeral :=
  let (negative, rest) := splitSign cs
  match rest.map Char.toLower with
  | ['i', 'n', 'f'] | ['i', 'n', 'f', 'i', 'n', 'i', 't', 'y'] => some (.infinite negative)
  | ['n', 'a', 'n'] => some .undefined
  | _ => decimalOf? negative rest

end Numeral

/-- How a decimal compares with the range of the binary formats, decided from its exponents. -/
inductive DecimalRange where
  /-- Below half of the least positive number of either format. -/
  | tiny
  /-- Close enough to the range to be converted. -/
  | ordinary
  /-- Above the greatest number of either format. -/
  | huge

/-- Where `digits · 10 ^ exponent` lies.  A number below `2 ^ (b + 1)` is below
`10 ^ (b / 3 + 1)`, and no format reaches `10 ^ 400` or down to `10 ^ (-400)`. -/
def DecimalRange.of (digits : Nat) (exponent : Int) : DecimalRange :=
  if digits = 0 then .tiny
  else if 400 < exponent then .huge
  else if (digits.log2 / 3 + 2 : Nat) + exponent < -400 then .tiny
  else .ordinary

/-- The double nearest to `digits · 10 ^ exponent`. -/
def Binary64.ofDecimal (digits : Nat) (exponent : Int) : Float :=
  match DecimalRange.of digits exponent with
  | .tiny => 0
  | .huge => Binary64.infinity
  | .ordinary => Float.ofScientific digits (exponent < 0) exponent.natAbs

/-- The single nearest to `digits · 10 ^ exponent`. -/
def Binary32.ofDecimal (digits : Nat) (exponent : Int) : Float32 :=
  match DecimalRange.of digits exponent with
  | .tiny => 0
  | .huge => .ofBits 0x7F800000
  | .ordinary => Float32.ofScientific digits (exponent < 0) exponent.natAbs

namespace Numeral

/-- The double nearest to a numeral. -/
def toDouble : Numeral → Float
  | .decimal false d e => Binary64.ofDecimal d e
  | .decimal true d e => -(Binary64.ofDecimal d e)
  | .infinite false => Binary64.infinity
  | .infinite true => -Binary64.infinity
  | .undefined => Binary64.notANumber

/-- The single nearest to a numeral. -/
def toSingle : Numeral → Float32
  | .decimal false d e => Binary32.ofDecimal d e
  | .decimal true d e => -(Binary32.ofDecimal d e)
  | .infinite false => .ofBits 0x7F800000
  | .infinite true => .ofBits 0xFF800000
  | .undefined => .ofBits 0x7FC00000

end Numeral

/-- The double that a text denotes. -/
def Binary64.ofText? (text : String) : Option Float :=
  (Numeral.ofChars? text.toList).map Numeral.toDouble

/-- The single that a text denotes. -/
def Binary32.ofText? (text : String) : Option Float32 :=
  (Numeral.ofChars? text.toList).map Numeral.toSingle

end SceneLoop
