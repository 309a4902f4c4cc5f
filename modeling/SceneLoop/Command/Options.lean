import SceneLoop.Number.Binary

/-!
# Options of a command line

An option is a name after two dashes, or a letter after one dash.  Its value follows it, or is
attached to it; a value that is not attached does not begin with a dash, unless it is a single
dash.  An option is given at most once.  After two lone dashes everything is an operand.

## Main definitions

* `OptionSpec` : an option that may be given.
* `Given`, `Given.scan?` : what is given on a command line.
* `Given.scanBefore?` : what is given before the first operand.
-/

namespace SceneLoop

/-- An option that may be given. -/
structure OptionSpec where
  /-- The name after two dashes. -/
  name : String
  /-- The letter after one dash, if there is one. -/
  letter : Option Char := none
  /-- Whether the option has a value. -/
  hasValue : Bool := true

/-- What one argument is. -/
inductive Argument where
  /-- An operand. -/
  | operand (text : String)
  /-- Two lone dashes. -/
  | dashes
  /-- An option without a value. -/
  | flag (name : String)
  /-- An option with a value attached. -/
  | attached (name value : String)
  /-- An option whose value follows. -/
  | awaiting (name : String)
  /-- Nothing that is allowed. -/
  | wrong

namespace Argument

/-- An option with what is attached to it. -/
def ofOption (spec : OptionSpec) (attachment : Option String) : Argument :=
  match spec.hasValue, attachment with
  | true, some value => .attached spec.name value
  | true, none => .awaiting spec.name
  | false, none => .flag spec.name
  | false, some _ => .wrong

/-- The value that is attached to the name of an option. -/
def valueAfter : List Char → Option String
  | '=' :: value => some (String.ofList value)
  | _ => none

/-- The value that is attached to the letter of an option. -/
def valueAfterLetter : List Char → Option String
  | [] => none
  | '=' :: value | value => some (String.ofList value)

/-- What an argument is, where some options may be given. -/
def classify (specs : List OptionSpec) (text : String) : Argument :=
  match text.toList with
  | ['-', '-'] => .dashes
  | '-' :: '-' :: rest =>
    let name := String.ofList (rest.takeWhile (· ≠ '='))
    match specs.find? fun s => s.name == name with
    | some spec => ofOption spec (valueAfter (rest.dropWhile (· ≠ '=')))
    | none => .wrong
  | '-' :: letter :: rest =>
    match specs.find? fun s => s.letter == some letter with
    | some spec => ofOption spec (valueAfterLetter rest)
    | none => .wrong
  | _ => .operand text

end Argument

/-- What is given on a command line. -/
structure Given where
  /-- The options with their values; a flag has the empty value. -/
  options : List (String × String) := []
  /-- The operands in order. -/
  operands : List String := []

namespace Given

/-- Take an option, unless it is there already. -/
def option? (name value : String) (g : Given) : Option Given :=
  if (g.options.lookup name).isSome then none
  else some { g with options := g.options ++ [(name, value)] }

/-- Take an operand. -/
def operand (text : String) (g : Given) : Given :=
  { g with operands := g.operands ++ [text] }

/-- The value of an option. -/
def value? (g : Given) (name : String) : Option String :=
  g.options.lookup name

/-- Whether a flag is given. -/
def has (g : Given) (name : String) : Bool :=
  (g.value? name).isSome

/-- The only operand. -/
def onlyOperand? (g : Given) : Option String :=
  match g.operands with
  | [text] => some text
  | _ => none

/-- What some arguments give; `awaiting` is an option that waits for its value. -/
def scan? (specs : List OptionSpec) (awaiting : Option String) :
    List String → Given → Option Given
  | [], g => if awaiting.isNone then some g else none
  | arg :: rest, g =>
    match awaiting, Argument.classify specs arg with
    | some name, .operand value => (g.option? name value).bind (scan? specs none rest)
    | some _, _ => none
    | none, .operand text => scan? specs none rest (g.operand text)
    | none, .dashes => some { g with operands := g.operands ++ rest }
    | none, .flag name => (g.option? name "").bind (scan? specs none rest)
    | none, .attached name value => (g.option? name value).bind (scan? specs none rest)
    | none, .awaiting name => scan? specs (some name) rest g
    | none, .wrong => none

/-- What is given before the first operand, that operand, and what follows it. -/
def scanBefore? (specs : List OptionSpec) (awaiting : Option String) :
    List String → Given → Option (Given × String × List String)
  | [], _ => none
  | arg :: rest, g =>
    match awaiting, Argument.classify specs arg with
    | some name, .operand value => (g.option? name value).bind (scanBefore? specs none rest)
    | some _, _ => none
    | none, .operand text => some (g, text, rest)
    | none, .flag name => (g.option? name "").bind (scanBefore? specs none rest)
    | none, .attached name value => (g.option? name value).bind (scanBefore? specs none rest)
    | none, .awaiting name => scanBefore? specs (some name) rest g
    | none, .dashes | none, .wrong => none

end Given

end SceneLoop
