import SceneLoop.Json.Value
import SceneLoop.Number.Shortest
import SceneLoop.Text.Blank

/-!
# Writing a value

A value is written on one line without blanks, or over several lines with two blanks for each
level.  A double is written with the fewest digits that read back; it always has a point or an
exponent, so that it is not taken for an integer.

## Main definitions

* `Json.compact` : the text on one line.
* `Json.pretty` : the text over several lines.
* `Binary64.toJsonText` : the text of a finite double.
-/

namespace SceneLoop

/-- Doubles whose leading digit has an exponent in this range are written without an exponent. -/
def Json.isPositional (magnitude : Int) : Bool :=
  -5 ≤ magnitude && magnitude < 16

/-- The decimal with a point or an exponent. -/
def Decimal.toJsonText (d : Decimal) : String :=
  if Json.isPositional d.magnitude then
    if d.exponent < 0 then d.positional else d.positional ++ ".0"
  else
    let digits := toString d.digits
    let fraction := String.ofList (digits.toList.drop 1)
    let mark := if d.magnitude < 0 then "e-" else "e+"
    String.ofList (digits.toList.take 1) ++ (if fraction.isEmpty then "" else "." ++ fraction) ++
      mark ++ toString d.magnitude.natAbs

/-- The text of a finite double, with the fewest digits that read back. -/
def Binary64.toJsonText (x : Float) : String :=
  match Binary64.parts x with
  | .zero .positive => "0.0"
  | .zero .negative => "-0.0"
  | .finite .positive m e _ => (Binary64.shortest m e).toJsonText
  | .finite .negative m e _ => "-" ++ (Binary64.shortest m e).toJsonText
  | _ => "null"

namespace Json

/-- A character inside a written text. -/
def escapeChar (c : Char) : String :=
  if c = '"' then "\\\""
  else if c = '\\' then "\\\\"
  else if c = '\n' then "\\n"
  else if c = '\r' then "\\r"
  else if c = '\t' then "\\t"
  else if c = '\x08' then "\\b"
  else if c = '\x0c' then "\\f"
  else if c.toNat < 0x20 then "\\u" ++ Text.hex 4 c.toNat
  else c.toString

/-- A text between quotes. -/
def quote (s : String) : String :=
  "\"" ++ String.join (s.toList.map escapeChar) ++ "\""

/-- The text of a number. -/
def Number.toText : Number → String
  | .integer n => toString n
  | .real x => Binary64.toJsonText x

/-- A line break followed by two blanks for each level. -/
def newline (level : Nat) : String :=
  "\n".pushn ' ' (2 * level)

mutual

/-- The text of a value on one line. -/
def compact : Json → String
  | .null => "null"
  | .bool b => if b then "true" else "false"
  | .number n => n.toText
  | .text s => quote s
  | .array items => "[" ++ ",".intercalate (compactItems items) ++ "]"
  | .object fields => "\x7b" ++ ",".intercalate (compactFields fields) ++ "\x7d"

/-- The texts of the items of an array. -/
def compactItems : List Json → List String
  | [] => []
  | v :: rest => compact v :: compactItems rest

/-- The texts of the fields of an object. -/
def compactFields : List (String × Json) → List String
  | [] => []
  | (k, v) :: rest => (quote k ++ ":" ++ compact v) :: compactFields rest

end

/-- Put parts between two brackets, each on a line of its own. -/
def enclose (opening closing : String) (level : Nat) (parts : List String) : String :=
  if parts.isEmpty then opening ++ closing
  else
    opening ++ newline (level + 1) ++ ("," ++ newline (level + 1)).intercalate parts ++
      newline level ++ closing

mutual

/-- The text of a value over several lines, at a given level. -/
def prettyAt (level : Nat) : Json → String
  | .array items => enclose "[" "]" level (prettyItems (level + 1) items)
  | .object fields => enclose "\x7b" "\x7d" level (prettyFields (level + 1) fields)
  | v => compact v

/-- The texts of the items of an array. -/
def prettyItems (level : Nat) : List Json → List String
  | [] => []
  | v :: rest => prettyAt level v :: prettyItems level rest

/-- The texts of the fields of an object. -/
def prettyFields (level : Nat) : List (String × Json) → List String
  | [] => []
  | (k, v) :: rest => (quote k ++ ": " ++ prettyAt level v) :: prettyFields level rest

end

/-- The text of a value over several lines. -/
def pretty (v : Json) : String :=
  prettyAt 0 v

end Json

end SceneLoop
