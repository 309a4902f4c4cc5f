import SceneLoop.Color

/-!
# Frames

A frame is a rectangle of pixels, stored row by row with four bytes for each pixel.  A color is
painted over a pixel in proportion to how much of the pixel it covers; painting outside the frame
does nothing.

## Main definitions

* `Pixel.blend` : a color painted over one pixel.
* `Frame` : the stored pixels.
* `Frame.pixel?`, `Frame.blend`, `Frame.fill` : reading and painting.

## Main results

* `Frame.size_data_blendAt` : painting keeps the number of bytes.
* `Frame.pixel?_blendAt` : painting changes one pixel only.
-/

namespace SceneLoop

/-- A color painted over a pixel, covering the given part of it. -/
def Pixel.blend (p : Pixel) (c : Color) (coverage : Float32) : Pixel :=
  let above := Binary32.clamp (c.a * coverage) 0 1
  if above ≤ 0 then p
  else
    let below := Color.ofByte p.a
    let total := above + below * (1 - above)
    if total ≤ 0 then p
    else
      let channel (source : Float32) (stored : UInt8) : UInt8 :=
        Color.toByte ((source * above + Color.ofByte stored * below * (1 - above)) / total)
      ⟨channel c.r p.r, channel c.g p.g, channel c.b p.b, Color.toByte total⟩

/-- A rectangle of pixels. -/
structure Frame where
  /-- Pixels in a row. -/
  width : UInt32
  /-- Rows. -/
  height : UInt32
  /-- Four bytes for each pixel, row by row. -/
  data : ByteArray

namespace Frame

/-- How many pixels the frame has. -/
def pixelCount (f : Frame) : Nat :=
  f.width.toNat * f.height.toNat

/-- A frame whose bytes are exactly those of its pixels. -/
def IsWhole (f : Frame) : Prop :=
  f.data.size = 4 * f.pixelCount

/-- Append a pixel a number of times. -/
def pushPixels (p : Pixel) : Nat → ByteArray → ByteArray
  | 0, data => data
  | n + 1, data => pushPixels p n ((((data.push p.r).push p.g).push p.b).push p.a)

/-- A frame of one color. -/
def solid (width height : UInt32) (c : Color) : Frame where
  width := width
  height := height
  data := pushPixels c.bytes (width.toNat * height.toNat) .empty

/-- A frame without color. -/
def blank (width height : UInt32) : Frame :=
  solid width height .transparent

/-- Give every stored pixel one color. -/
def fill (f : Frame) (c : Color) : Frame :=
  let count := f.data.size / 4
  let rest := f.data.extract (4 * count) f.data.size
  { f with data := pushPixels c.bytes count .empty ++ rest }

/-- Where the bytes of the pixel in column `x` and row `y` begin. -/
def offset (f : Frame) (x y : Nat) : Nat :=
  (y * f.width.toNat + x) * 4

/-- Whether the frame has a column `x` and a row `y`. -/
def hasPixel (f : Frame) (x y : Nat) : Bool :=
  x < f.width.toNat && y < f.height.toNat

/-- The pixel whose bytes begin at a position. -/
def readPixel (data : ByteArray) (o : Nat) (h : o + 3 < data.size) : Pixel :=
  ⟨data[o], data[o + 1], data[o + 2], data[o + 3]⟩

/-- Replacing a byte keeps the number of bytes. -/
theorem size_set (data : ByteArray) (i : Nat) (v : UInt8) (h : i < data.size) :
    (data.set i v h).size = data.size :=
  @Array.size_set UInt8 data.data i v h

/-- Store a pixel whose bytes begin at a position. -/
def writePixel (data : ByteArray) (o : Nat) (h : o + 3 < data.size) (p : Pixel) : ByteArray :=
  let data₁ := data.set o p.r
  have h₁ : data₁.size = data.size := size_set ..
  let data₂ := data₁.set (o + 1) p.g
  have h₂ : data₂.size = data.size := (size_set ..).trans h₁
  let data₃ := data₂.set (o + 2) p.b
  have h₃ : data₃.size = data.size := (size_set ..).trans h₂
  data₃.set (o + 3) p.a

theorem size_writePixel (data : ByteArray) (o : Nat) (h : o + 3 < data.size) (p : Pixel) :
    (writePixel data o h p).size = data.size := by
  simp only [writePixel, size_set]

/-- The pixel in column `x` and row `y`. -/
def pixel? (f : Frame) (x y : Nat) : Option Pixel :=
  if f.hasPixel x y then
    if h : f.offset x y + 3 < f.data.size then some (readPixel f.data (f.offset x y) h) else none
  else none

/-- Change the pixel whose bytes begin at a position. -/
@[inline] def modifyBytes (data : ByteArray) (o : Nat) (change : Pixel → Pixel) : ByteArray :=
  if h : o + 3 < data.size then writePixel data o h (change (readPixel data o h)) else data

/-- Paint a color over the pixel in column `x` and row `y`. -/
def blendAt (f : Frame) (x y : Nat) (c : Color) (coverage : Float32) : Frame :=
  if f.hasPixel x y then
    let ⟨width, height, data⟩ := f
    let o := (y * width.toNat + x) * 4
    ⟨width, height, modifyBytes data o fun p => p.blend c coverage⟩
  else f

/-- Paint a color over the pixel at a position that may lie outside the frame. -/
def blend (f : Frame) (x y : Int64) (c : Color) (coverage : Float32) : Frame :=
  if 0 ≤ x ∧ 0 ≤ y then f.blendAt x.toNatClampNeg y.toNatClampNeg c coverage else f

/-- Keep only the first bytes. -/
def truncate (f : Frame) (size : Nat) : Frame :=
  { f with data := f.data.extract 0 size }

/-- The bytes after one of them is replaced. -/
theorem getElem_set (data : ByteArray) (i j : Nat) (v : UInt8) (hi : i < data.size)
    (hj : j < (data.set i v hi).size) :
    (data.set i v hi)[j] =
      if i = j then v else getElem data j (by rwa [size_set] at hj) :=
  Array.getElem_set hi hj

/-- A stored pixel reads back. -/
theorem readPixel_writePixel_self (data : ByteArray) (o : Nat) (h : o + 3 < data.size) (p : Pixel)
    (h' : o + 3 < (writePixel data o h p).size) :
    readPixel (writePixel data o h p) o h' = p := by
  simp [readPixel, writePixel, getElem_set]

/-- A pixel whose bytes lie apart from those of the stored one. -/
theorem readPixel_writePixel_of_apart (data : ByteArray) (o q : Nat) (h : o + 3 < data.size)
    (p : Pixel) (h' : q + 3 < (writePixel data o h p).size) (hne : q + 3 < o ∨ o + 3 < q) :
    readPixel (writePixel data o h p) q h' =
      readPixel data q (by rwa [size_writePixel] at h') := by
  simp only [readPixel, writePixel, getElem_set, Pixel.mk.injEq]
  refine ⟨?_, ?_, ?_, ?_⟩ <;> (repeat rw [if_neg (by omega)])

/-- The bytes of different pixels lie apart. -/
theorem offset_apart (f : Frame) {x y x' y' : Nat} (hx : x < f.width.toNat)
    (hx' : x' < f.width.toNat) (hne : ¬(x = x' ∧ y = y')) :
    f.offset x' y' + 3 < f.offset x y ∨ f.offset x y + 3 < f.offset x' y' := by
  unfold offset
  rcases Nat.lt_trichotomy y y' with h | h | h
  · have : (y + 1) * f.width.toNat ≤ y' * f.width.toNat := Nat.mul_le_mul_right _ h
    rw [Nat.succ_mul] at this
    omega
  · subst h
    omega
  · have : (y' + 1) * f.width.toNat ≤ y * f.width.toNat := Nat.mul_le_mul_right _ h
    rw [Nat.succ_mul] at this
    omega

/-- Painting keeps the width. -/
@[simp]
theorem width_blendAt (f : Frame) (x y : Nat) (c : Color) (coverage : Float32) :
    (f.blendAt x y c coverage).width = f.width := by
  unfold blendAt
  split <;> rfl

/-- Painting keeps the height. -/
@[simp]
theorem height_blendAt (f : Frame) (x y : Nat) (c : Color) (coverage : Float32) :
    (f.blendAt x y c coverage).height = f.height := by
  unfold blendAt
  split <;> rfl

/-- Painting keeps the columns and rows. -/
@[simp]
theorem hasPixel_blendAt (f : Frame) (x y x' y' : Nat) (c : Color) (coverage : Float32) :
    (f.blendAt x y c coverage).hasPixel x' y' = f.hasPixel x' y' := by
  simp [hasPixel]

/-- Painting keeps where the bytes of a pixel begin. -/
@[simp]
theorem offset_blendAt (f : Frame) (x y x' y' : Nat) (c : Color) (coverage : Float32) :
    (f.blendAt x y c coverage).offset x' y' = f.offset x' y' := by
  simp [offset]

/-- The bytes after painting. -/
theorem data_blendAt (f : Frame) (x y : Nat) (c : Color) (coverage : Float32) :
    (f.blendAt x y c coverage).data =
      if f.hasPixel x y then modifyBytes f.data (f.offset x y) fun p => p.blend c coverage
      else f.data := by
  unfold blendAt
  split <;> rfl

/-- Changing a pixel keeps the number of bytes. -/
theorem size_modifyBytes (data : ByteArray) (o : Nat) (change : Pixel → Pixel) :
    (modifyBytes data o change).size = data.size := by
  unfold modifyBytes
  split
  · exact size_writePixel ..
  · rfl

/-- Painting keeps the number of bytes. -/
@[simp]
theorem size_data_blendAt (f : Frame) (x y : Nat) (c : Color) (coverage : Float32) :
    (f.blendAt x y c coverage).data.size = f.data.size := by
  rw [data_blendAt]
  split
  · exact size_modifyBytes ..
  · rfl

/-- The changed pixel. -/
theorem readPixel_modifyBytes_self (data : ByteArray) (o : Nat) (change : Pixel → Pixel)
    (h : o + 3 < data.size) (h' : o + 3 < (modifyBytes data o change).size) :
    readPixel (modifyBytes data o change) o h' = change (readPixel data o h) := by
  simp only [modifyBytes, h, ↓reduceDIte] at h' ⊢
  exact readPixel_writePixel_self ..

/-- A pixel whose bytes lie apart from those of the changed one. -/
theorem readPixel_modifyBytes_of_apart (data : ByteArray) (o q : Nat) (change : Pixel → Pixel)
    (h : q + 3 < data.size) (h' : q + 3 < (modifyBytes data o change).size)
    (hne : q + 3 < o ∨ o + 3 < q) :
    readPixel (modifyBytes data o change) q h' = readPixel data q h := by
  unfold modifyBytes at h' ⊢
  split at h'
  · next ho =>
    simp only [ho, ↓reduceDIte]
    exact readPixel_writePixel_of_apart _ _ _ _ _ _ hne
  · next ho => simp only [ho, ↓reduceDIte]

/-- Painting changes one pixel, by painting the color over it. -/
theorem pixel?_blendAt (f : Frame) (x y x' y' : Nat) (c : Color) (coverage : Float32) :
    (f.blendAt x y c coverage).pixel? x' y' =
      if x = x' ∧ y = y' then (f.pixel? x y).map (·.blend c coverage) else f.pixel? x' y' := by
  by_cases hp : f.hasPixel x y
  · have hd : (f.blendAt x y c coverage).data =
        modifyBytes f.data (f.offset x y) fun p => p.blend c coverage := by
      rw [data_blendAt, if_pos hp]
    have hs := size_modifyBytes f.data (f.offset x y) fun p => p.blend c coverage
    by_cases he : x = x' ∧ y = y'
    · obtain ⟨rfl, rfl⟩ := he
      by_cases ho : f.offset x y + 3 < f.data.size
      · have ho' := hs ▸ ho
        simp [pixel?, hasPixel_blendAt, offset_blendAt, hd, hp, ho, ho',
          readPixel_modifyBytes_self _ _ _ ho ho']
      · have ho' := hs ▸ ho
        simp [pixel?, hasPixel_blendAt, offset_blendAt, hd, hp, ho, ho']
    · by_cases hq : f.hasPixel x' y'
      · have hx : x < f.width.toNat := by simp_all [hasPixel]
        have hx' : x' < f.width.toNat := by simp_all [hasPixel]
        by_cases ho : f.offset x' y' + 3 < f.data.size
        · have ho' := hs ▸ ho
          simp [pixel?, hasPixel_blendAt, offset_blendAt, hd, hq, ho, ho', he,
            readPixel_modifyBytes_of_apart _ _ _ _ ho ho' (f.offset_apart hx hx' he)]
        · have ho' := hs ▸ ho
          simp [pixel?, hasPixel_blendAt, offset_blendAt, hd, hq, ho, ho', he]
      · simp [pixel?, hasPixel_blendAt, he, hq]
  · have hb : f.blendAt x y c coverage = f := by simp [blendAt, hp]
    rw [hb]
    split
    · next he =>
      obtain ⟨rfl, rfl⟩ := he
      simp [pixel?, hp]
    · rfl

end Frame

end SceneLoop
