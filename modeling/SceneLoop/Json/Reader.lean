import SceneLoop.Json.Value
import SceneLoop.Number.Reading

/-!
# Reading a value

The reader is a machine that takes one character at a time.  Its state is what the next character
may be, under a stack of the arrays and objects that are open; a text denotes a value when the
machine can take all of it and then holds one complete value.  Because the machine never looks
ahead, what it holds after a beginning of a text does not depend on the rest.

## Main definitions

* `Json.Reader` : the state of the machine, with its moves in `Json.Reader.step`.
* `Json.parse?` : the value that a whole text denotes.
* `Json.leading?` : the value at the beginning of a text, with the rest of the text.
* `Json.maxDepth` : how many arrays and objects may be open at once.
-/

namespace SceneLoop.Json

/-- At most this many arrays and objects may be open at once. -/
def maxDepth : Nat := 127

/-- An array or object that is open. -/
inductive Container where
  /-- An array with the items read so far, last first. -/
  | array (items : List Json)
  /-- An object with the fields read so far, and the name whose value is being read. -/
  | object (fields : Fields) (name : String)

/-- Where the machine stands inside an escape. -/
inductive Escape where
  /-- Not in an escape. -/
  | none
  /-- After a backslash. -/
  | started
  /-- Among the four digits of a code unit; the first unit of a pair is kept. -/
  | unit (first : Option Nat) (count value : Nat)
  /-- After the first unit of a pair, where a backslash must follow. -/
  | pair (first : Nat)
  /-- After the backslash between the units of a pair, where a `u` must follow. -/
  | pairMark (first : Nat)
deriving DecidableEq

/-- Where the machine stands inside a number. -/
inductive NumberPart where
  /-- After the minus sign. -/
  | sign
  /-- After a leading zero. -/
  | zero
  /-- Among the digits before the point. -/
  | whole
  /-- After the point. -/
  | point
  /-- Among the digits after the point. -/
  | fraction
  /-- After the letter of the exponent. -/
  | exponentMark
  /-- After the sign of the exponent. -/
  | exponentSign
  /-- Among the digits of the exponent. -/
  | exponent
deriving DecidableEq

/-- What the machine expects next. -/
inductive Mode where
  /-- A value. -/
  | value
  /-- An item, or the end of an array that was just opened. -/
  | firstItem
  /-- A name, or the end of an object that was just opened. -/
  | firstName
  /-- A name. -/
  | name
  /-- The colon after a name. -/
  | colon
  /-- A comma, or the end of the innermost array or object. -/
  | separator
  /-- Nothing but blanks after the value. -/
  | finished (v : Json)
  /-- More of a text, whose characters so far are kept last first. -/
  | text (isName : Bool) (read : List Char) (escape : Escape)
  /-- More of a fixed word. -/
  | word (rest : List Char) (v : Json)
  /-- More of a number, whose characters so far are kept last first. -/
  | number (read : List Char) (part : NumberPart)

/-- The state of the machine. -/
structure Reader where
  /-- The arrays and objects that are open, innermost first. -/
  inside : List Container
  /-- What is expected next. -/
  mode : Mode

namespace NumberPart

/-- The part of a number after one more character, if the number goes on. -/
def next? (part : NumberPart) (c : Char) : Option NumberPart :=
  match part with
  | .sign => if c = '0' then some .zero else if c.isDigit then some .whole else none
  | .zero => afterWhole c
  | .whole => if c.isDigit then some .whole else afterWhole c
  | .point => if c.isDigit then some .fraction else none
  | .fraction => if c.isDigit then some .fraction else afterFraction c
  | .exponentMark =>
    if c = '+' ∨ c = '-' then some .exponentSign else if c.isDigit then some .exponent else none
  | .exponentSign => if c.isDigit then some .exponent else none
  | .exponent => if c.isDigit then some .exponent else none
where
  /-- What may follow the digits before the point. -/
  afterWhole (c : Char) : Option NumberPart :=
    if c = '.' then some .point else afterFraction c
  /-- What may follow the digits after the point. -/
  afterFraction (c : Char) : Option NumberPart :=
    if c = 'e' ∨ c = 'E' then some .exponentMark else none

/-- Whether a number may end here. -/
def isComplete : NumberPart → Bool
  | .zero | .whole | .fraction | .exponent => true
  | _ => false

/-- Whether a number that ends here has neither a point nor an exponent. -/
def isIntegral : NumberPart → Bool
  | .zero | .whole => true
  | _ => false

end NumberPart

/-- The number with the given characters: an integer if it is written as one, is not a negative
zero and fits a 64-bit word, otherwise the nearest double, which must be finite. -/
def Number.ofChars? (integral : Bool) (cs : List Char) : Option Number :=
  match Numeral.ofChars? cs with
  | some (.decimal negative digits exponent) =>
    if integral && !negative && digits < 2 ^ 64 then some (.integer digits)
    else if integral && negative && digits ≠ 0 && digits ≤ 2 ^ 63 then some (.integer (-digits))
    else
      let x := (Numeral.decimal negative digits exponent).toDouble
      if x.isFinite then some (.real x) else none
  | _ => none

/-- Blanks between the parts of a text. -/
def isGap (c : Char) : Bool :=
  c = ' ' || c = '\t' || c = '\n' || c = '\r'

/-- The value of a hexadecimal digit. -/
def hexDigit? (c : Char) : Option Nat :=
  if c.isDigit then some (c.toNat - '0'.toNat)
  else if 'a' ≤ c ∧ c ≤ 'f' then some (c.toNat - 'a'.toNat + 10)
  else if 'A' ≤ c ∧ c ≤ 'F' then some (c.toNat - 'A'.toNat + 10)
  else none

/-- The character that stands for itself after a backslash, or for a control. -/
def escaped? (c : Char) : Option Char :=
  if c = '"' ∨ c = '\\' ∨ c = '/' then some c
  else if c = 'b' then some '\x08'
  else if c = 'f' then some '\x0c'
  else if c = 'n' then some '\n'
  else if c = 'r' then some '\r'
  else if c = 't' then some '\t'
  else none

namespace Reader

/-- The machine before the first character. -/
def start : Reader := ⟨[], .value⟩

/-- A value is complete: it is the answer, an item of the innermost array, or the value of a field
of the innermost object. -/
def complete (v : Json) : List Container → Reader
  | [] => ⟨[], .finished v⟩
  | .array items :: rest => ⟨.array (v :: items) :: rest, .separator⟩
  | .object fields name :: rest => ⟨.object (fields.insert name v) name :: rest, .separator⟩

/-- A text is complete: it is a value, or the name of the next field. -/
def completeText (isName : Bool) (s : String) (inside : List Container) : Option Reader :=
  if isName then
    match inside with
    | .object fields _ :: rest => some ⟨.object fields s :: rest, .colon⟩
    | _ => none
  else some (complete (.text s) inside)

/-- Open an array or object. -/
def enter (c : Container) (mode : Mode) (inside : List Container) : Option Reader :=
  if inside.length < maxDepth then some ⟨c :: inside, mode⟩ else none

/-- The first character of a value. -/
def startValue (inside : List Container) (c : Char) : Option Reader :=
  if c = '"' then some ⟨inside, .text false [] .none⟩
  else if c = '[' then enter (.array []) .firstItem inside
  else if c = '{' then enter (.object [] "") .firstName inside
  else if c = '-' then some ⟨inside, .number [c] .sign⟩
  else if c = '0' then some ⟨inside, .number [c] .zero⟩
  else if c.isDigit then some ⟨inside, .number [c] .whole⟩
  else if c = 't' then some ⟨inside, .word ['r', 'u', 'e'] (.bool true)⟩
  else if c = 'f' then some ⟨inside, .word ['a', 'l', 's', 'e'] (.bool false)⟩
  else if c = 'n' then some ⟨inside, .word ['u', 'l', 'l'] .null⟩
  else none

/-- A character after a value in an array or object. -/
def separate (c : Char) : List Container → Option Reader
  | .array items :: rest =>
    if c = ',' then some ⟨.array items :: rest, .value⟩
    else if c = ']' then some (complete (.array items.reverse) rest)
    else none
  | .object fields name :: rest =>
    if c = ',' then some ⟨.object fields name :: rest, .name⟩
    else if c = '}' then some (complete (.object fields) rest)
    else none
  | [] => none

/-- A character within a text. -/
def stepText (inside : List Container) (isName : Bool) (read : List Char) (c : Char) :
    Escape → Option Reader
  | .none =>
    if c = '"' then completeText isName (String.ofList read.reverse) inside
    else if c = '\\' then some ⟨inside, .text isName read .started⟩
    else if c.toNat < 0x20 then none
    else some ⟨inside, .text isName (c :: read) .none⟩
  | .started =>
    if c = 'u' then some ⟨inside, .text isName read (.unit none 0 0)⟩
    else (escaped? c).map fun d => ⟨inside, .text isName (d :: read) .none⟩
  | .unit first count value =>
    (hexDigit? c).bind fun d =>
      let value := 16 * value + d
      if count < 3 then some ⟨inside, .text isName read (.unit first (count + 1) value)⟩
      else
        let isFirst := 0xD800 ≤ value && value < 0xDC00
        let isSecond := 0xDC00 ≤ value && value < 0xE000
        match first with
        | some high =>
          if isSecond then
            let code := 0x10000 + (high - 0xD800) * 0x400 + (value - 0xDC00)
            some ⟨inside, .text isName (Char.ofNat code :: read) .none⟩
          else none
        | none =>
          if isFirst then some ⟨inside, .text isName read (.pair value)⟩
          else if isSecond then none
          else some ⟨inside, .text isName (Char.ofNat value :: read) .none⟩
  | .pair high => if c = '\\' then some ⟨inside, .text isName read (.pairMark high)⟩ else none
  | .pairMark high =>
    if c = 'u' then some ⟨inside, .text isName read (.unit (some high) 0 0)⟩ else none

/-- A character after a value: a gap, or a separator if something is open. -/
def stepAfter (r : Reader) (c : Char) : Option Reader :=
  if isGap c then some r else separate c r.inside

/-- The number that ends here is complete. -/
def completeNumber? (inside : List Container) (read : List Char) (part : NumberPart) :
    Option Reader :=
  if part.isComplete then
    (Number.ofChars? part.isIntegral read.reverse).map fun n => complete (.number n) inside
  else none

/-- The machine takes one character. -/
def step (r : Reader) (c : Char) : Option Reader :=
  match r.mode with
  | .value => if isGap c then some r else startValue r.inside c
  | .firstItem =>
    if isGap c then some r
    else if c = ']' then separate c r.inside
    else startValue r.inside c
  | .firstName =>
    if isGap c then some r
    else if c = '"' then some ⟨r.inside, .text true [] .none⟩
    else if c = '}' then separate c r.inside
    else none
  | .name =>
    if isGap c then some r
    else if c = '"' then some ⟨r.inside, .text true [] .none⟩
    else none
  | .colon =>
    if isGap c then some r
    else if c = ':' then some ⟨r.inside, .value⟩
    else none
  | .separator => stepAfter r c
  | .finished _ => if isGap c then some r else none
  | .text isName read escape => stepText r.inside isName read c escape
  | .word [] _ => none
  | .word [d] v => if c = d then some (complete v r.inside) else none
  | .word (d :: rest) v => if c = d then some ⟨r.inside, .word rest v⟩ else none
  | .number read part =>
    match part.next? c with
    | some part => some ⟨r.inside, .number (c :: read) part⟩
    | none => (completeNumber? r.inside read part).bind fun r => stepAfter r c

/-- The value that the machine holds at the end of a text. -/
def result? (r : Reader) : Option Json :=
  match r.mode with
  | .finished v => some v
  | .number read part =>
    (completeNumber? r.inside read part).bind fun r =>
      match r.mode with
      | .finished v => some v
      | _ => none
  | _ => none

/-- The machine takes characters in order, as long as it can. -/
def run (r : Reader) (cs : List Char) : Option Reader :=
  cs.foldlM step r

/-- Taking two texts one after the other is taking them joined. -/
theorem run_append (r : Reader) (cs ds : List Char) :
    r.run (cs ++ ds) = (r.run cs).bind fun r' => r'.run ds := by
  simp only [run, List.foldlM_append]
  rfl

end Reader

/-- The value that a whole text denotes. -/
def parseChars? (cs : List Char) : Option Json :=
  (Reader.start.run cs).bind Reader.result?

/-- The value that a whole text denotes. -/
def parse? (s : String) : Option Json :=
  parseChars? s.toList

/-- Run the machine until it holds a complete value; what is left of the text comes with it. -/
def leadingFrom? (r : Reader) : List Char → Option (Json × List Char)
  | [] => none
  | c :: rest =>
    (r.step c).bind fun r' =>
      match r'.mode with
      | .finished v => some (v, rest)
      | _ => leadingFrom? r' rest

/-- The array, object, text or word at the beginning of a text, with the rest of the text. -/
def leading? (cs : List Char) : Option (Json × List Char) :=
  leadingFrom? Reader.start cs

end SceneLoop.Json
