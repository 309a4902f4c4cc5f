/-!
# The digest SHA-256

A text of bytes is padded to whole blocks of sixteen words: a set bit, zeros, and the length in
bits as one 64-bit word.  Each block is spread over sixty-four words and mixed into a state of
eight words, which in the end is the digest.

## Main definitions

* `Sha256.State` : the eight words of state.
* `Sha256.padding` : what is appended to a text of a given length.
* `Sha256.compress` : one block mixed into the state.
* `Sha256.hash` : the digest of a text.
-/

namespace SceneLoop.Sha256

/-- The first thirty-two bits of the fractional parts of the cube roots of the first sixty-four
primes. -/
def roundConstants : Array UInt32 :=
  #[0x428a2f98, 0x71374491, 0xb5c0fbcf, 0xe9b5dba5, 0x3956c25b, 0x59f111f1, 0x923f82a4,
    0xab1c5ed5, 0xd807aa98, 0x12835b01, 0x243185be, 0x550c7dc3, 0x72be5d74, 0x80deb1fe,
    0x9bdc06a7, 0xc19bf174, 0xe49b69c1, 0xefbe4786, 0x0fc19dc6, 0x240ca1cc, 0x2de92c6f,
    0x4a7484aa, 0x5cb0a9dc, 0x76f988da, 0x983e5152, 0xa831c66d, 0xb00327c8, 0xbf597fc7,
    0xc6e00bf3, 0xd5a79147, 0x06ca6351, 0x14292967, 0x27b70a85, 0x2e1b2138, 0x4d2c6dfc,
    0x53380d13, 0x650a7354, 0x766a0abb, 0x81c2c92e, 0x92722c85, 0xa2bfe8a1, 0xa81a664b,
    0xc24b8b70, 0xc76c51a3, 0xd192e819, 0xd6990624, 0xf40e3585, 0x106aa070, 0x19a4c116,
    0x1e376c08, 0x2748774c, 0x34b0bcb5, 0x391c0cb3, 0x4ed8aa4a, 0x5b9cca4f, 0x682e6ff3,
    0x748f82ee, 0x78a5636f, 0x84c87814, 0x8cc70208, 0x90befffa, 0xa4506ceb, 0xbef9a3f7,
    0xc67178f2]

/-- Eight words of state. -/
structure State where
  /-- First word. -/
  a : UInt32
  /-- Second word. -/
  b : UInt32
  /-- Third word. -/
  c : UInt32
  /-- Fourth word. -/
  d : UInt32
  /-- Fifth word. -/
  e : UInt32
  /-- Sixth word. -/
  f : UInt32
  /-- Seventh word. -/
  g : UInt32
  /-- Eighth word. -/
  h : UInt32
deriving DecidableEq

/-- The first thirty-two bits of the fractional parts of the square roots of the first eight
primes. -/
def State.initial : State :=
  ⟨0x6a09e667, 0xbb67ae85, 0x3c6ef372, 0xa54ff53a,
    0x510e527f, 0x9b05688c, 0x1f83d9ab, 0x5be0cd19⟩

/-- Word by word addition. -/
def State.add (s t : State) : State :=
  ⟨s.a + t.a, s.b + t.b, s.c + t.c, s.d + t.d, s.e + t.e, s.f + t.f, s.g + t.g, s.h + t.h⟩

/-- The words of a state in order. -/
def State.words (s : State) : List UInt32 :=
  [s.a, s.b, s.c, s.d, s.e, s.f, s.g, s.h]

/-- Rotate a word to the right. -/
@[inline] def rotate (x n : UInt32) : UInt32 :=
  (x >>> n) ||| (x <<< (32 - n))

/-- A word of a sequence, or zero past its end. -/
@[inline] def wordAt (words : Array UInt32) (i : Nat) : UInt32 :=
  if h : i < words.size then words[i] else 0

/-- A byte of a text, or zero past its end. -/
@[inline] def byteAt (data : ByteArray) (i : Nat) : UInt32 :=
  if h : i < data.size then data[i].toUInt32 else 0

/-- Four bytes as one word, the first byte highest. -/
@[inline] def readWord (data : ByteArray) (i : Nat) : UInt32 :=
  (byteAt data i <<< 24) ||| (byteAt data (i + 1) <<< 16) ||| (byteAt data (i + 2) <<< 8) |||
    byteAt data (i + 3)

/-- The sixteen words of the block that begins at a position. -/
def block (data : ByteArray) (start : Nat) : Array UInt32 :=
  (List.range 16).foldl (fun w i => w.push (readWord data (start + 4 * i)))
    (Array.emptyWithCapacity 64)

/-- Append the words that a block is spread to. -/
def extend : Nat → Array UInt32 → Array UInt32
  | 0, w => w
  | n + 1, w =>
    let x := wordAt w (w.size - 15)
    let y := wordAt w (w.size - 2)
    let s := rotate x 7 ^^^ rotate x 18 ^^^ (x >>> 3)
    let t := rotate y 17 ^^^ rotate y 19 ^^^ (y >>> 10)
    extend n (w.push (wordAt w (w.size - 16) + s + wordAt w (w.size - 7) + t))

/-- The rounds from a given one on, with the state in eight words. -/
def rounds (w : Array UInt32) (i : Nat) (a b c d e f g h : UInt32) : State :=
  if i < 64 then
    let s := rotate e 6 ^^^ rotate e 11 ^^^ rotate e 25
    let choice := (e &&& f) ^^^ ((~~~e) &&& g)
    let t := h + s + choice + wordAt roundConstants i + wordAt w i
    let u := rotate a 2 ^^^ rotate a 13 ^^^ rotate a 22
    let majority := (a &&& b) ^^^ (a &&& c) ^^^ (b &&& c)
    rounds w (i + 1) (t + (u + majority)) a b c (d + t) e f g
  else ⟨a, b, c, d, e, f, g, h⟩
termination_by 64 - i

/-- One block mixed into the state. -/
def compress (s : State) (words : Array UInt32) : State :=
  s.add (rounds (extend 48 words) 0 s.a s.b s.c s.d s.e s.f s.g s.h)

/-- The blocks from a position on, mixed into the state. -/
def absorb (data : ByteArray) : Nat → Nat → State → State
  | 0, _, s => s
  | n + 1, start, s => absorb data n (start + 64) (compress s (block data start))

/-- The bytes of a number, highest first. -/
def bigEndian (count n : Nat) : List UInt8 :=
  (List.range count).reverse.map fun i => UInt8.ofNat (n >>> (8 * i))

/-- What is appended to a text of `size` bytes. -/
def padding (size : Nat) : ByteArray :=
  let zeros := (119 - size % 64) % 64
  ⟨((0x80 :: List.replicate zeros 0) ++ bigEndian 8 (8 * size)).toArray⟩

/-- The digest of a text, as a list of bytes. -/
def hash (text : ByteArray) : List UInt8 :=
  let padded := text ++ padding text.size
  (absorb padded (padded.size / 64) 0 .initial).words.flatMap fun w => bigEndian 4 w.toNat

end SceneLoop.Sha256
