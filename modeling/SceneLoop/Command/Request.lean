import SceneLoop.Command.Options
import SceneLoop.Number.Reading

/-!
# Requests

A command line names a command and what it needs.

## Main definitions

* `Request` : what is asked for.
* `Invocation.ofArguments?` : what a command line asks for.
-/

namespace SceneLoop

/-- The size of a surface, as far as it is given. -/
structure RequestedSize where
  /-- The width. -/
  width : Option Float := none
  /-- The height. -/
  height : Option Float := none

/-- What is needed to write one frame. -/
structure RenderRequest where
  /-- Where the payload is. -/
  input : String
  /-- Where the image goes. -/
  out : String
  /-- The playback time in milliseconds. -/
  time : Float
  /-- The size of the surface. -/
  size : RequestedSize
  /-- Device pixels for each unit. -/
  scale : Float
  /-- Whether to use the dark theme. -/
  dark : Bool
  /-- Where the font for all texts is. -/
  font : Option String

/-- What is needed to write frames. -/
structure FramesRequest where
  /-- Where the payload is. -/
  input : String
  /-- The directory for the images. -/
  directory : String
  /-- Refreshes for each second. -/
  fps : Float
  /-- How many frames to write. -/
  count : Nat
  /-- The size of the surface. -/
  size : RequestedSize
  /-- Whether to use the dark theme. -/
  dark : Bool
  /-- Where the font for all texts is. -/
  font : Option String

/-- What is asked for. -/
inductive Request where
  /-- Show how a payload is understood. -/
  | inspect (input : String)
  /-- Show the scene of a payload. -/
  | normalize (input : String)
  /-- Show the drawing operations of one frame. -/
  | ops (input : String) (time : Float) (size : RequestedSize)
  /-- Write one frame as an image. -/
  | render (r : RenderRequest)
  /-- Play a payload and write every frame as an image. -/
  | frames (r : FramesRequest)
  /-- Show the sample scene. -/
  | sample
  /-- Show the settings. -/
  | config

/-- A request, and where the settings are. -/
structure Invocation where
  /-- The settings file. -/
  config : Option String
  /-- What is asked for. -/
  request : Request

namespace Request

/-- The option for the settings file, which may be given before and after the command. -/
def configOption : OptionSpec := ⟨"config", none, true⟩

/-- The options for the size of a surface. -/
def sizeOptions : List OptionSpec := [⟨"width", none, true⟩, ⟨"height", none, true⟩]

/-- The options of a command. -/
def options? : String → Option (List OptionSpec)
  | "inspect" | "normalize" | "sample" | "config" => some [configOption]
  | "ops" => some (configOption :: ⟨"at-ms", none, true⟩ :: sizeOptions)
  | "render" =>
    some (configOption :: ⟨"out", some 'o', true⟩ :: ⟨"at-ms", none, true⟩ ::
      ⟨"scale", none, true⟩ :: ⟨"dark", none, false⟩ :: ⟨"font", none, true⟩ :: sizeOptions)
  | "frames" =>
    some (configOption :: ⟨"out-dir", none, true⟩ :: ⟨"fps", none, true⟩ ::
      ⟨"count", none, true⟩ :: ⟨"dark", none, false⟩ :: ⟨"font", none, true⟩ :: sizeOptions)
  | _ => none

/-- The value of an option read by `read`, or none if the option is not given.  Fails if the value
cannot be read. -/
def readOption {α : Type} (g : Given) (name : String) (read : String → Option α) :
    Option (Option α) :=
  match g.value? name with
  | none => some none
  | some text => (read text).map some

/-- A number that may be left out. -/
def number (g : Given) (name : String) : Option (Option Float) :=
  readOption g name Binary64.ofText?

/-- The name of a file, which is not empty. -/
def fileName? (text : String) : Option String :=
  if text.isEmpty then none else some text

/-- The name of a file that may be left out. -/
def file (g : Given) (name : String) : Option (Option String) :=
  readOption g name fileName?

/-- A count that fits a 64-bit word. -/
def count? (text : String) : Option Nat :=
  let digits := match text.toList with
    | '+' :: rest => rest
    | cs => cs
  if digits.isEmpty || !digits.all Char.isDigit then none
  else if Numeral.ofDigits digits < 2 ^ 64 then some (Numeral.ofDigits digits) else none

/-- The size of a surface. -/
def size? (g : Given) : Option RequestedSize := do
  return ⟨← number g "width", ← number g "height"⟩

/-- The request for a command and what is given after it. -/
def ofGiven? (command : String) (g : Given) : Option Request :=
  match command with
  | "inspect" => g.onlyOperand?.map .inspect
  | "normalize" => g.onlyOperand?.map .normalize
  | "ops" => do
    return .ops (← g.onlyOperand?) ((← number g "at-ms").getD 0) (← size? g)
  | "render" => do
    return .render {
      input := ← g.onlyOperand?
      out := ← ← file g "out"
      time := (← number g "at-ms").getD 0
      size := ← size? g
      scale := (← number g "scale").getD 1
      dark := g.has "dark"
      font := ← file g "font" }
  | "frames" => do
    return .frames {
      input := ← g.onlyOperand?
      directory := ← ← file g "out-dir"
      fps := (← number g "fps").getD 30
      count := (← readOption g "count" count?).getD 30
      size := ← size? g
      dark := g.has "dark"
      font := ← file g "font" }
  | "sample" => if g.operands.isEmpty then some .sample else none
  | "config" => if g.operands.isEmpty then some .config else none
  | _ => none

end Request

/-- What a command line asks for.  A settings file after the command takes the place of one before
it. -/
def Invocation.ofArguments? (args : List String) : Option Invocation := do
  let (before, command, rest) ← Given.scanBefore? [Request.configOption] none args {}
  let given ← Given.scan? (← Request.options? command) none rest {}
  let early ← Request.file before "config"
  let late ← Request.file given "config"
  return ⟨late.or early, ← Request.ofGiven? command given⟩

end SceneLoop
