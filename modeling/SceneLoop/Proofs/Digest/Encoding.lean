import Mathlib
import SceneLoop.Digest.Frames

/-!
# The bytes of frames

The bytes of frames stand one after another without any mark between them.  A frame can be told from
what follows it all the same, because its width and height come first and say how many bytes of
pixels follow.  Together with the number of frames, which comes before all of them, this makes the
frames known from their bytes, so that what has the same digest is the same or shows a collision.

## Main definitions

* `Sha256.Collide` : different texts with the same digest.
* `Frame.encodings` : the bytes of frames, one after another.

## Main results

* `littleEndian_inj` : a number is known from enough of its bytes.
* `Frame.encode_append_inj` : a frame is known from the bytes that it begins.
* `Frame.contentHash_identifies` : what has the same bytes is the same, and what has the same digest
  is the same or shows a collision.
-/

namespace SceneLoop

/-- Different texts with the same digest. -/
def Sha256.Collide (a b : ByteArray) : Prop :=
  a ≠ b ∧ hash a = hash b

/-- Texts have the same digest if they are equal or collide. -/
theorem Sha256.hash_eq_iff {a b : ByteArray} : hash a = hash b ↔ a = b ∨ Collide a b := by
  constructor
  · intro h
    exact or_iff_not_imp_left.2 fun hne => ⟨hne, h⟩
  · rintro (rfl | h)
    · rfl
    · exact h.2

/-! ### Numbers -/

theorem size_littleEndian (count n : ℕ) : (littleEndian count n).size = count := by
  simp [littleEndian, ByteArray.size]

theorem toList_littleEndian_succ (count n : ℕ) :
    (littleEndian (count + 1) n).data.toList =
      UInt8.ofNat n :: (littleEndian count (n / 256)).data.toList := by
  have hshift (i : ℕ) : n >>> (8 * (i + 1)) = (n / 256) >>> (8 * i) := by
    rw [Nat.mul_succ, Nat.add_comm, Nat.shiftRight_add, Nat.shiftRight_eq_div_pow n 8]
  simp [littleEndian, List.range_succ_eq_map, hshift]

/-- A number is known from its bytes if there are enough of them. -/
theorem littleEndian_inj {count m n : ℕ} (hm : m < 256 ^ count) (hn : n < 256 ^ count)
    (h : littleEndian count m = littleEndian count n) : m = n := by
  induction count generalizing m n with
  | zero => omega
  | succ count ih =>
    have hbytes := congrArg (fun b : ByteArray => b.data.toList) h
    simp only [toList_littleEndian_succ, List.cons.injEq] at hbytes
    obtain ⟨hlow, hhigh⟩ := hbytes
    have hlow' : m % 256 = n % 256 := by simpa using congrArg UInt8.toNat hlow
    rw [Nat.pow_succ] at hm hn
    have hhigh' : m / 256 = n / 256 :=
      ih (Nat.div_lt_of_lt_mul (by omega)) (Nat.div_lt_of_lt_mul (by omega))
        (ByteArray.ext (Array.toList_inj.1 hhigh))
    omega

/-- Bytes of equal number in front of others are known. -/
theorem append_inj_of_size_eq {a b r s : ByteArray} (hsize : a.size = b.size)
    (h : a ++ r = b ++ s) : a = b ∧ r = s := by
  obtain rfl := ByteArray.append_inj_left h hsize
  exact ⟨rfl, (ByteArray.append_right_inj a).1 h⟩

/-- A word in front of other bytes is known. -/
theorem littleEndian_append_inj {count m n : ℕ} (hm : m < 256 ^ count) (hn : n < 256 ^ count)
    {r s : ByteArray} (h : littleEndian count m ++ r = littleEndian count n ++ s) :
    m = n ∧ r = s := by
  obtain ⟨hword, hrest⟩ := append_inj_of_size_eq (by simp only [size_littleEndian]) h
  exact ⟨littleEndian_inj hm hn hword, hrest⟩

namespace Frame

variable {f g : Frame} {fs gs : List Frame}

/-! ### Frames -/

theorem encode_append (f : Frame) (r : ByteArray) :
    f.encode ++ r =
      littleEndian 4 f.width.toNat ++ (littleEndian 4 f.height.toNat ++ (f.data ++ r)) := by
  simp only [encode, ByteArray.append_assoc]

/-- A frame is known from the bytes that it begins: its width and height say where it ends. -/
theorem encode_append_inj (hf : f.IsWhole) (hg : g.IsWhole) {r s : ByteArray}
    (h : f.encode ++ r = g.encode ++ s) : f = g ∧ r = s := by
  rw [encode_append, encode_append] at h
  obtain ⟨hwidth, h⟩ := littleEndian_append_inj f.width.toNat_lt g.width.toNat_lt h
  obtain ⟨hheight, h⟩ := littleEndian_append_inj f.height.toNat_lt g.height.toNat_lt h
  have hsize : f.data.size = g.data.size := by
    rw [hf, hg, pixelCount, pixelCount, hwidth, hheight]
  obtain ⟨hdata, hrest⟩ := append_inj_of_size_eq hsize h
  obtain ⟨width, height, data⟩ := f
  obtain ⟨width', height', data'⟩ := g
  obtain rfl : width = width' := UInt32.toNat_inj.1 hwidth
  obtain rfl : height = height' := UInt32.toNat_inj.1 hheight
  exact ⟨by rw [show data = data' from hdata], hrest⟩

theorem encode_inj (hf : f.IsWhole) (hg : g.IsWhole) : f.encode = g.encode ↔ f = g := by
  refine ⟨fun h => (encode_append_inj (r := .empty) (s := .empty) hf hg ?_).1, congrArg encode⟩
  rw [h]

/-! ### Sequences of frames -/

/-- The bytes of frames, one after another. -/
def encodings : List Frame → ByteArray
  | [] => .empty
  | f :: fs => f.encode ++ encodings fs

theorem foldl_append_encode (fs : List Frame) (b : ByteArray) :
    fs.foldl (fun bytes f => bytes ++ f.encode) b = b ++ encodings fs := by
  induction fs generalizing b with
  | nil => exact ByteArray.append_empty.symm
  | cons f fs ih => rw [List.foldl_cons, ih, encodings, ByteArray.append_assoc]

theorem encodeAll_eq (fs : List Frame) :
    encodeAll fs = littleEndian 8 fs.length ++ encodings fs :=
  foldl_append_encode fs _

/-- Equally many frames are known from their bytes. -/
theorem encodings_inj (hfs : ∀ f ∈ fs, f.IsWhole) (hgs : ∀ g ∈ gs, g.IsWhole)
    (hlength : fs.length = gs.length) (h : encodings fs = encodings gs) : fs = gs := by
  induction fs generalizing gs with
  | nil => exact (List.length_eq_zero_iff.1 hlength.symm).symm
  | cons f fs ih =>
    cases gs with
    | nil => cases hlength
    | cons g gs =>
      rw [List.forall_mem_cons] at hfs hgs
      obtain ⟨rfl, hrest⟩ := encode_append_inj hfs.1 hgs.1 h
      rw [ih hfs.2 hgs.2 (Nat.succ.inj hlength) hrest]

/-- Frames are known from their number and their bytes. -/
theorem encodeAll_inj (hfs : ∀ f ∈ fs, f.IsWhole) (hgs : ∀ g ∈ gs, g.IsWhole)
    (hf : fs.length < 2 ^ 64) (hg : gs.length < 2 ^ 64) :
    encodeAll fs = encodeAll gs ↔ fs = gs := by
  refine ⟨fun h => ?_, congrArg encodeAll⟩
  rw [encodeAll_eq, encodeAll_eq] at h
  obtain ⟨hlength, hrest⟩ := littleEndian_append_inj hf hg h
  exact encodings_inj hfs hgs hlength hrest

/-- **A digest identifies frames up to collisions.** Frames that are whole, and sequences of fewer
than `2 ^ 64` of them, are known from the bytes that their digest is taken of.  So they have the
same digest only if they are the same, or if their bytes are different texts with the same
digest. -/
theorem contentHash_identifies (hfs : ∀ f ∈ fs, f.IsWhole) (hgs : ∀ g ∈ gs, g.IsWhole)
    (hlength : fs.length < 2 ^ 64) (hlength' : gs.length < 2 ^ 64) (hf : f.IsWhole)
    (hg : g.IsWhole) :
    ((encodeAll fs = encodeAll gs ↔ fs = gs) ∧
      (contentHashAll fs = contentHashAll gs ↔
        fs = gs ∨ Sha256.Collide (encodeAll fs) (encodeAll gs))) ∧
      (f.encode = g.encode ↔ f = g) ∧
      (f.contentHash = g.contentHash ↔ f = g ∨ Sha256.Collide f.encode g.encode) := by
  have hall := encodeAll_inj hfs hgs hlength hlength'
  have hone := encode_inj hf hg
  refine ⟨⟨hall, ?_⟩, hone, ?_⟩
  · rw [contentHashAll, contentHashAll, ContentHash.mk.injEq, Sha256.hash_eq_iff, hall]
  · rw [contentHash, contentHash, ContentHash.mk.injEq, Sha256.hash_eq_iff, hone]

/-- Two pixels beside each other. -/
def beside : Frame :=
  ⟨2, 1, ⟨#[255, 0, 0, 255, 0, 0, 255, 255]⟩⟩

/-- The same two pixels below each other. -/
def below : Frame :=
  ⟨1, 2, ⟨#[255, 0, 0, 255, 0, 0, 255, 255]⟩⟩

/-- A frame without pixels has bytes too, so its place in a sequence shows. -/
theorem contentHash_identifies_beside :
    (∀ f ∈ [beside, ⟨0, 7, .empty⟩, below], f.IsWhole) ∧
      encodeAll [beside, ⟨0, 7, .empty⟩, below] ≠ encodeAll [beside, below, ⟨0, 7, .empty⟩] ∧
      beside.encode ≠ below.encode ∧
      (beside.contentHash = below.contentHash → Sha256.Collide beside.encode below.encode) := by
  have hwhole : ∀ f ∈ [beside, ⟨0, 7, .empty⟩, below], f.IsWhole := by simp [IsWhole]; decide
  have hwhole' : ∀ f ∈ [beside, below, ⟨0, 7, .empty⟩], f.IsWhole := by simp [IsWhole]; decide
  have hne : beside ≠ below := fun h => absurd (congrArg width h) (by decide)
  have hne' : [beside, ⟨0, 7, .empty⟩, below] ≠ [beside, below, ⟨0, 7, .empty⟩] := fun h =>
    absurd (congrArg (fun fs => fs.map width) h) (by decide)
  obtain ⟨⟨hall, -⟩, hone, hdigest⟩ := contentHash_identifies hwhole hwhole' (by decide) (by decide)
    (rfl : beside.IsWhole) (rfl : below.IsWhole)
  exact ⟨hwhole, hall.not.2 hne', hone.not.2 hne, fun h => (hdigest.1 h).resolve_left hne⟩

end Frame

end SceneLoop
