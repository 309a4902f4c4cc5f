import SceneLoop.Command.Run
import SceneLoop.Glyph.Sheet
import SceneLoop.Png

/-!
# The program

Runs a command line on the files of the machine.  A font file is an array of glyph sheets.

## Main definitions

* `main` : the program.
-/

namespace SceneLoop.Machine

/-- All bytes of a stream after some that were read. -/
partial def readAll (stream : IO.FS.Stream) (bytes : ByteArray) : IO ByteArray := do
  let more ← stream.read 65536
  if more.isEmpty then return bytes else readAll stream (bytes ++ more)

/-- The result of an action, if it does not fail. -/
def attempt {α : Type} (action : IO α) : IO (Option α) := do
  try
    return some (← action)
  catch _ =>
    return none

/-- The face in the text of a font file. -/
def faceOfText? (text : String) : Option Face :=
  ((Json.parse? text).bind GlyphSheet.listOfJson?).map Face.ofSheets

instance : Files IO where
  readInput := do
    let bytes ← attempt do readAll (← IO.getStdin) .empty
    return bytes.bind String.fromUTF8?
  readText path := attempt (IO.FS.readFile path)
  readFace path := do
    return (← attempt (IO.FS.readFile path)).bind faceOfText?
  makeDirectory path := do
    return (← attempt (IO.FS.createDirAll path)).isSome
  writeImage path f := do
    match f.toPng with
    | .ok bytes => return (← attempt (IO.FS.writeBinFile path bytes)).isSome
    | .error _ => return false

end SceneLoop.Machine

/-- Run a command line. -/
def main (args : List String) : IO UInt32 := do
  let outcome : SceneLoop.Outcome ← SceneLoop.Command.run args
  (← IO.getStdout).putStr outcome.output
  if let some complaint := outcome.complaint then
    (← IO.getStderr).putStrLn complaint
  return outcome.code.toUInt32
