import SceneLoop.Fault
import SceneLoop.Frame

/-!
# Image files

A frame is stored as an image file in the PNG format, with eight bits for each of red, green, blue
and opacity, no filtering and no compression: the deflate stream consists of stored blocks.

## Main definitions

* `Frame.toPng` : the bytes of the file.
-/

namespace SceneLoop

namespace Png

/-- The bytes of a 32-bit word, the most significant first. -/
def word (n : UInt32) : ByteArray :=
  ⟨#[(n >>> 24).toUInt8, (n >>> 16).toUInt8, (n >>> 8).toUInt8, n.toUInt8]⟩

/-- The bytes of a 16-bit word, the least significant first. -/
def shortWord (n : UInt16) : ByteArray :=
  ⟨#[n.toUInt8, (n >>> 8).toUInt8]⟩

/-- One step of the cyclic redundancy check. -/
def checkBit (c : UInt32) : UInt32 :=
  if c &&& 1 = 1 then (0xEDB88320 : UInt32) ^^^ (c >>> 1) else c >>> 1

/-- Take a byte into the cyclic redundancy check. -/
def checkByte (c : UInt32) (b : UInt8) : UInt32 :=
  Nat.repeat checkBit 8 (c ^^^ b.toUInt32)

/-- The cyclic redundancy check of some bytes. -/
def check (data : ByteArray) : UInt32 :=
  ~~~ data.foldl checkByte 0xFFFFFFFF

/-- The two sums that end a compressed stream, as one word. -/
def sums (data : ByteArray) : UInt32 :=
  let (a, b) := data.foldl (fun (s : UInt32 × UInt32) v =>
    let a := (s.1 + v.toUInt32) % 65521
    (a, (s.2 + a) % 65521)) (1, 0)
  (b <<< 16) ||| a

/-- A chunk of the file: its length, its type, its bytes and their check. -/
def chunk (type : String) (data : ByteArray) : ByteArray :=
  let body := type.toUTF8 ++ data
  word data.size.toUInt32 ++ body ++ word (check body)

/-- The most bytes that a stored block has. -/
def blockSize : Nat := 65535

/-- Stored blocks with the bytes from a position on. -/
def storedFrom (data : ByteArray) (start : Nat) : ByteArray :=
  let rest := data.size - start
  if rest ≤ blockSize then
    ⟨#[1]⟩ ++ shortWord rest.toUInt16 ++ shortWord (~~~ rest.toUInt16) ++
      data.extract start data.size
  else
    ⟨#[0]⟩ ++ shortWord blockSize.toUInt16 ++ shortWord (~~~ blockSize.toUInt16) ++
      data.extract start (start + blockSize) ++ storedFrom data (start + blockSize)
termination_by data.size - start
decreasing_by simp only [blockSize] at *; omega

/-- A stream of stored blocks. -/
def stored (data : ByteArray) : ByteArray :=
  ⟨#[0x78, 0x01]⟩ ++ storedFrom data 0 ++ word (sums data)

/-- The rows of a frame, each one after a byte that says it is not filtered. -/
def rows (f : Frame) : ByteArray :=
  let size := 4 * f.width.toNat
  (List.range f.height.toNat).foldl
    (fun data y => data.push 0 ++ f.data.extract (y * size) ((y + 1) * size)) .empty

/-- The bytes that every file begins with. -/
def signature : ByteArray :=
  ⟨#[0x89, 0x50, 0x4E, 0x47, 0x0D, 0x0A, 0x1A, 0x0A]⟩

/-- The size and the format of the pixels. -/
def header (f : Frame) : ByteArray :=
  word f.width ++ word f.height ++ ⟨#[8, 6, 0, 0, 0]⟩

end Png

open Png in
/-- The image file for a frame, which has to have all bytes of its pixels, and at least one
pixel. -/
def Frame.toPng (f : Frame) : Except Fault ByteArray :=
  if f.data.size < 4 * f.pixelCount then
    .error (.invalidArgument ("frame data does not match " ++ toString f.width.toNat ++ "x" ++
      toString f.height.toNat ++ " RGBA"))
  else if f.pixelCount = 0 then .error (.other "failed to encode PNG: the image is empty")
  else
    .ok (signature ++ chunk "IHDR" (header f) ++ chunk "IDAT" (stored (rows f)) ++
      chunk "IEND" .empty)

end SceneLoop
