import SceneLoop.Number.Reading
import SceneLoop.Toml.Value

/-!
# Numbers and moments of a settings document

Digits may be grouped by single underscores.  An integer is decimal without leading zeros, or has
a mark for base sixteen, eight or two and no sign.  A number with a fraction has digits on both
sides of the point.

## Main definitions

* `Toml.ofScalar?` : the truth value, number or moment that a run of characters denotes.
-/

namespace SceneLoop.Toml

/-- The digits of a group, without the single underscores between them. -/
def ungroup? (isDigit : Char → Bool) : List Char → Option (List Char)
  | [] => none
  | [c] => if isDigit c then some [c] else none
  | c :: '_' :: rest => if isDigit c then (ungroup? isDigit rest).map (c :: ·) else none
  | c :: rest => if isDigit c then (ungroup? isDigit rest).map (c :: ·) else none

/-- Whether a character is a digit in a base up to sixteen. -/
def isDigitIn (base : Nat) (c : Char) : Bool :=
  if c.isDigit then c.toNat - '0'.toNat < base
  else base = 16 && ('a' ≤ c.toLower && c.toLower ≤ 'f')

/-- The value of a digit in a base up to sixteen. -/
def digitValue (c : Char) : Nat :=
  if c.isDigit then c.toNat - '0'.toNat else c.toLower.toNat - 'a'.toNat + 10

/-- An integer, if its format can hold it. -/
def ofInteger (n : Int) : Toml :=
  if -2 ^ 127 ≤ n ∧ n < 2 ^ 128 then .integer n else .outOfRange

/-- The integer with some digits in a base. -/
def based? (base : Nat) (digits : List Char) : Option Toml :=
  (ungroup? (isDigitIn base) digits).map fun ds =>
    ofInteger (ds.foldl (fun n c => n * base + digitValue c) 0 : Nat)

/-- Decimal digits without a leading zero, except for zero itself. -/
def wholeDigits? (cs : List Char) : Option (List Char) :=
  match ungroup? Char.isDigit cs with
  | some ('0' :: _ :: _) => none
  | ds => ds

/-- The exponent after its mark. -/
def exponent? (cs : List Char) : Option Int :=
  let (negative, ds) := Numeral.splitSign cs
  (ungroup? Char.isDigit ds).map fun ds =>
    if negative then -(Numeral.ofDigits ds : Int) else Numeral.ofDigits ds

/-- A number with a sign, digits and a decimal exponent, if its format can hold it. -/
def ofDecimal (negative : Bool) (digits : List Char) (exponent : Int) : Toml :=
  let x := Binary64.ofDecimal (Numeral.ofDigits digits) exponent
  if x.isFinite then .real (if negative then -x else x) else .outOfRange

/-- A decimal number after its sign. -/
def decimal? (negative : Bool) (cs : List Char) : Option Toml := do
  let isMark (c : Char) : Bool := c = 'e' || c = 'E'
  let mantissa := cs.takeWhile fun c => !isMark c
  let power := cs.dropWhile fun c => !isMark c
  let exponent ← match power with
    | [] => some 0
    | _ :: rest => exponent? rest
  let whole ← wholeDigits? (mantissa.takeWhile (· ≠ '.'))
  match mantissa.dropWhile (· ≠ '.') with
  | [] =>
    if power.isEmpty then
      let n := Numeral.ofDigits whole
      return ofInteger (if negative then -(n : Int) else n)
    else return ofDecimal negative whole exponent
  | _ :: rest =>
    let fraction ← ungroup? Char.isDigit rest
    return ofDecimal negative (whole ++ fraction) (exponent - fraction.length)

/-- The number that a run of characters denotes. -/
def number? : List Char → Option Toml
  | '0' :: 'x' :: digits => based? 16 digits
  | '0' :: 'o' :: digits => based? 8 digits
  | '0' :: 'b' :: digits => based? 2 digits
  | cs =>
    let (negative, rest) := Numeral.splitSign cs
    match rest with
    | ['i', 'n', 'f'] => some (.real (if negative then -Binary64.infinity else Binary64.infinity))
    | ['n', 'a', 'n'] => some (.real Binary64.notANumber)
    | _ => decimal? negative rest

/-- A number with a fixed count of decimal digits, and what follows it. -/
def fixedDigits? (count : Nat) (cs : List Char) : Option (Nat × List Char) :=
  let ds := cs.take count
  if ds.length = count && ds.all Char.isDigit then some (Numeral.ofDigits ds, cs.drop count)
  else none

/-- How many days a month has. -/
def daysIn (year month : Nat) : Nat :=
  if month = 2 then
    if year % 4 = 0 && (year % 100 ≠ 0 || year % 400 = 0) then 29 else 28
  else if month = 4 || month = 6 || month = 9 || month = 11 then 30
  else 31

/-- What follows a date. -/
def afterDate? (cs : List Char) : Option (List Char) := do
  let (year, cs) ← fixedDigits? 4 cs
  let '-' :: cs := cs | none
  let (month, cs) ← fixedDigits? 2 cs
  let '-' :: cs := cs | none
  let (day, cs) ← fixedDigits? 2 cs
  if 1 ≤ month ∧ month ≤ 12 ∧ 1 ≤ day ∧ day ≤ daysIn year month then some cs else none

/-- What follows an hour and a minute. -/
def afterMinute? (cs : List Char) : Option (List Char) := do
  let (hour, cs) ← fixedDigits? 2 cs
  let ':' :: cs := cs | none
  let (minute, cs) ← fixedDigits? 2 cs
  if hour ≤ 23 ∧ minute ≤ 59 then some cs else none

/-- What follows a time: a minute, and seconds with a fraction if they are given. -/
def afterTime? (cs : List Char) : Option (List Char) := do
  match ← afterMinute? cs with
  | ':' :: cs =>
    let (second, cs) ← fixedDigits? 2 cs
    if 60 < second then none
    else
      match cs with
      | '.' :: cs =>
        match cs.dropWhile Char.isDigit with
        | rest => if rest.length < cs.length then some rest else none
      | cs => some cs
  | cs => some cs

/-- Whether a text is a shift from universal time. -/
def isShift : List Char → Bool
  | ['Z'] | ['z'] => true
  | '+' :: cs | '-' :: cs => afterMinute? cs = some []
  | _ => false

/-- Whether a text is a date, a time or a date with a time. -/
def isMoment (cs : List Char) : Bool :=
  match afterDate? cs with
  | some [] => true
  | some (mark :: cs) =>
    (mark = 'T' || mark = 't' || mark = ' ') &&
      match afterTime? cs with
      | some [] => true
      | some shift => isShift shift
      | none => false
  | none => afterTime? cs = some []

/-- The truth value, number or moment that a run of characters denotes. -/
def ofScalar? (cs : List Char) : Option Toml :=
  match cs with
  | ['t', 'r', 'u', 'e'] => some (.bool true)
  | ['f', 'a', 'l', 's', 'e'] => some (.bool false)
  | _ => if isMoment cs then some (.moment (String.ofList cs)) else number? cs

end SceneLoop.Toml
