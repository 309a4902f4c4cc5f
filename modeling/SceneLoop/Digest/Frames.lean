import SceneLoop.Frame
import SceneLoop.Digest.Sha256

/-!
# Digests of frames

A frame is turned into bytes with its width and height in front, so frames of different sizes have
different bytes even if their pixels agree; a sequence of frames has its length in front.  The
digest of these bytes identifies what was rendered.

## Main definitions

* `Frame.encode`, `Frame.encodeAll` : the bytes of a frame and of a sequence of frames.
* `ContentHash` : a digest of thirty-two bytes.
* `Frame.contentHash`, `Frame.contentHashAll` : the digests.
-/

namespace SceneLoop

/-- A digest. -/
structure ContentHash where
  /-- The bytes of the digest. -/
  bytes : List UInt8
deriving DecidableEq

/-- The digest in lower-case hexadecimal. -/
def ContentHash.toHex (h : ContentHash) : String :=
  String.join (h.bytes.map fun b => Text.hex 2 b.toNat)

/-- The bytes of a number, lowest first. -/
def littleEndian (count n : Nat) : ByteArray :=
  ⟨((List.range count).map fun i => UInt8.ofNat (n >>> (8 * i))).toArray⟩

namespace Frame

/-- The bytes of a frame: its width, its height and its pixels. -/
def encode (f : Frame) : ByteArray :=
  littleEndian 4 f.width.toNat ++ littleEndian 4 f.height.toNat ++ f.data

/-- The bytes of a sequence of frames: its length, then frame after frame. -/
def encodeAll (fs : List Frame) : ByteArray :=
  fs.foldl (fun bytes f => bytes ++ f.encode) (littleEndian 8 fs.length)

/-- The digest of a frame. -/
def contentHash (f : Frame) : ContentHash :=
  ⟨Sha256.hash f.encode⟩

/-- The digest of a sequence of frames. -/
def contentHashAll (fs : List Frame) : ContentHash :=
  ⟨Sha256.hash (encodeAll fs)⟩

end Frame

end SceneLoop
