import SceneLoop.Command.Files
import SceneLoop.Command.Inspection
import SceneLoop.Command.Request
import SceneLoop.Json.Reader
import SceneLoop.Json.Writer
import SceneLoop.Playback.Reel
import SceneLoop.Scene.Builder
import SceneLoop.Settings.Document

/-!
# Running a command

A command reads its payload, shows a text or writes images, and ends with a code: zero, one for a
failure of its own, two where the command line asks for nothing it knows, and 101 where a sum
overflowed.

## Main definitions

* `CommandFault`, `CommandFault.message` : why a command fails.
* `Settings.surfaceSize` : the size of a surface, within its limit.
* `Command.perform` : a request, in any monad with files.
* `Command.run`, `Outcome` : a command line, and how it ends.
-/

namespace SceneLoop

/-- Why a command fails. -/
inductive CommandFault where
  /-- The settings file cannot be read. -/
  | settings (path : String)
  /-- The payload file cannot be read. -/
  | payload (path : String)
  /-- What is piped in cannot be read. -/
  | input
  /-- The payload has no scene. -/
  | noScene (trace : Trace)
  /-- The pixel ratio is not positive. -/
  | scale (scale : Float)
  /-- A side of the surface is too long. -/
  | side (option : String) (side scale : Float)
  /-- The rate is not positive. -/
  | rate (fps : Float)
  /-- The font file cannot be read. -/
  | font (path : String)
  /-- The directory of an image cannot be made. -/
  | directory (path : String)
  /-- The directory for all images cannot be made. -/
  | outputDirectory (path : String)
  /-- An image cannot be written. -/
  | image (path : String)
  /-- The host refused a refresh. -/
  | refresh
  /-- A sum overflowed. -/
  | overflow

/-- The longest side of a surface in device pixels. -/
def Settings.sideLimit : Float := 16384

/-- The text of a failure. -/
def CommandFault.message : CommandFault → String
  | .settings path => "failed to load config: " ++ path
  | .payload path => "failed to read file: " ++ path
  | .input => "failed to read payload from stdin"
  | .noScene trace => "payload did not yield a scene (" ++ trace.toText ++ ")"
  | .scale x => "--scale must be positive, got " ++ Binary64.toText x
  | .side option extent x =>
    "--" ++ option ++ " " ++ Binary64.toText extent ++ " at scale " ++ Binary64.toText x ++
      " exceeds the " ++ Binary64.toText Settings.sideLimit ++ "px surface limit"
  | .rate x => "--fps must be positive, got " ++ Binary64.toText x
  | .font path => "failed to load font: " ++ path
  | .directory path => "failed to create directory: " ++ path
  | .outputDirectory path => "failed to create output dir: " ++ path
  | .image path => "failed to write " ++ path
  | .refresh => "failed to schedule frame"
  | .overflow => "attempt to add with overflow"

/-- Whether a number is positive and finite. -/
def Binary64.isPositive (x : Float) : Bool :=
  x.isFinite && 0 < x

namespace Settings

/-- Whether a side of a surface is within the limit. -/
def allowsSide (side scale : Float) : Bool :=
  side.isFinite && side * scale ≤ sideLimit

/-- The size of a surface: what is asked for, or else what is set, within the limit. -/
def surfaceSize (s : Settings) (size : RequestedSize) (scale : Float) :
    Except CommandFault Size :=
  let width := size.width.getD s.canvas.fallback.width
  let height := size.height.getD s.canvas.fallback.height
  if !allowsSide width scale then .error (.side "width" width scale)
  else if !allowsSide height scale then .error (.side "height" height scale)
  else .ok ⟨width, height⟩

/-- The settings in the dark theme, if that is asked for. -/
def darken (s : Settings) (dark : Bool) : Settings :=
  { s with isDark := s.isDark || dark }

end Settings

/-- The payload in a text: the value that the text is, or else the text itself. -/
def Json.ofPayloadText (text : String) : Json :=
  (Json.parse? text).getD (.text text)

/-- How a command line ends. -/
structure Outcome where
  /-- The code. -/
  code : UInt8
  /-- What is shown. -/
  output : String := ""
  /-- Why it failed. -/
  complaint : Option String := none

/-- How a command line ends that failed. -/
def Outcome.ofFault : CommandFault → Outcome
  | .overflow => { code := 101 }
  | fault => { code := 1, complaint := some ("Error: " ++ fault.message) }

namespace Command

variable {m : Type → Type} [Monad m] [Files m]

/-- Fail where there is nothing. -/
def demand {α : Type} (fault : CommandFault) (action : m (Option α)) :
    ExceptT CommandFault m α := do
  match ← (action : ExceptT CommandFault m (Option α)) with
  | some a => return a
  | none => throw fault

/-- Fail where something is not so. -/
def ensure (fault : CommandFault) (action : m Bool) : ExceptT CommandFault m Unit := do
  unless ← (action : ExceptT CommandFault m Bool) do throw fault

/-- The settings in a file, or the defaults. -/
def loadSettings : Option String → ExceptT CommandFault m Settings
  | none => return default
  | some path => do
    let document ← demand (.settings path) (Files.readText path)
    match Settings.ofDocument? document with
    | some s => return s
    | none => throw (.settings path)

/-- The payload in a file, or what is piped in. -/
def readPayload (input : String) : ExceptT CommandFault m Json := do
  let text ← if input = "-" then demand .input Files.readInput
    else demand (.payload input) (Files.readText input)
  return .ofPayloadText text

/-- How a payload is understood. -/
def understand (s : Settings) (input : String) : ExceptT CommandFault m Normalized := do
  return (Normalizer.ofPeriod s.playback.defaultPeriod).normalize (← readPayload input)

/-- The faces for all texts. -/
def loadFonts : Option String → ExceptT CommandFault m FontBook
  | none => return .empty
  | some path => do
    let face ← demand (.font path) (Files.readFace path)
    return FontBook.empty.load (FilePath.stem path) face

/-- A value as it is shown. -/
def shown (v : Json) : String :=
  v.pretty ++ "\n"

/-- The operations of one frame, as they are shown. -/
def frameOps (s : Settings) (n : Normalized) (time : Float) (size : Size) : Json :=
  let (r, _) := (Painter.ofSettings s).paint n.scene (.ofMillis time) (some n.trace.toText)
    (Recording.ofSize size)
  .array (r.ops.toList.map Op.toJson)

/-- Write one frame. -/
def render (s : Settings) (r : RenderRequest) : ExceptT CommandFault m Unit := do
  let s := s.darken r.dark
  if !Binary64.isPositive r.scale then throw (.scale r.scale)
  let size ← s.surfaceSize r.size r.scale
  let n ← understand s r.input
  let p := (Pipeline.ofSettings s size r.scale).withFonts (← loadFonts r.font)
  let some f := p.renderFrame? n.scene (.ofMillis r.time) (some n.trace.toText)
    | throw .overflow
  if let some directory := FilePath.parent? r.out then
    ensure (.directory directory) (Files.makeDirectory directory)
  ensure (.image r.out) (Files.writeImage r.out f)

/-- The file for a frame. -/
def framePath (directory : String) (index : Nat) : String :=
  FilePath.join directory ("frame_" ++ zeroPadded 5 index ++ ".png")

/-- Write a number of frames, from one of them on. -/
def writeFrames (directory : String) (interval : Float) :
    (count index : Nat) → Reel → ExceptT CommandFault m Unit
  | 0, _, _ => return
  | count + 1, index, reel => do
    match reel.next? ⟨Float.ofNat index * interval⟩ with
    | none => throw .overflow
    | some (_, .error _) => throw .refresh
    | some (reel, .ok _) =>
      let path := framePath directory index
      ensure (.image path) (Files.writeImage path reel.frame)
      writeFrames directory interval count (index + 1) reel

/-- Play a payload and write every frame. -/
def frames (s : Settings) (r : FramesRequest) : ExceptT CommandFault m Unit := do
  let s := s.darken r.dark
  let size ← s.surfaceSize r.size 1
  if !Binary64.isPositive r.fps then throw (.rate r.fps)
  let payload ← readPayload r.input
  let p := (Pipeline.ofSettings s size 1).withFonts (← loadFonts r.font)
  let reel := Reel.start s p.canvas payload
  ensure (.outputDirectory r.directory) (Files.makeDirectory r.directory)
  writeFrames r.directory (1000 / r.fps) r.count 0 reel

/-- Do what is asked for, and say what to show. -/
def perform (s : Settings) : Request → ExceptT CommandFault m String
  | .inspect input => do
    return String.join ((← understand s input).inspection.map (· ++ "\n"))
  | .normalize input => do
    let n ← understand s input
    match n.scene with
    | some scene => return shown scene.toJson
    | none => throw (.noScene n.trace)
  | .ops input time size => do
    let n ← understand s input
    return shown (frameOps s n time (← s.surfaceSize size 1))
  | .render r => do
    render s r
    return ""
  | .frames r => do
    frames s r
    return ""
  | .sample => return shown Scene.sample.toJson
  | .config => return s.toDocument

/-- Run a command line. -/
def run (args : List String) : m Outcome := do
  match Invocation.ofArguments? args with
  | none => return { code := 2 }
  | some i =>
    let text : ExceptT CommandFault m String := do perform (← loadSettings i.config) i.request
    match ← text.run with
    | .ok output => return { code := 0, output }
    | .error fault => return .ofFault fault

end Command

end SceneLoop
