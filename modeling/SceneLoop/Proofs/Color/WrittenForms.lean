import Mathlib
import SceneLoop.Proofs.Color.Range
import SceneLoop.Proofs.Number.Printed

/-!
# The written forms of a color

Both forms of a color are read back as the color that is drawn.  The hexadecimal one holds the bytes
that are stored in a frame, so what is read has these bytes and is written in the same way.  The
form with arguments holds the red, green and blue bytes too, and an opacity that is not rounded to a
byte but only moved into `[0, 1]`.

## Main definitions

* `Color.ofPixel` : the color of a stored pixel.
* `Color.IsPlain` : a character that reading a color leaves alone.

## Main results

* `Color.ofHex_toHex`, `Color.ofCss_toHex` : the hexadecimal form is read as the color of the stored
  pixel.
* `Color.ofCss_toCss` : the form with arguments is read as that color with another opacity.
* `Color.written_forms` : what both forms are read as.
-/

namespace SceneLoop

namespace Text

/-! ### Ends of a text -/

variable {cs : List Char} {c : Char}

theorem dropWhile_isBlank_eq_self (h : ∀ c ∈ cs.head?, isBlank c = false) :
    cs.dropWhile isBlank = cs := by
  cases cs with
  | nil => rfl
  | cons c cs => exact List.dropWhile_cons_of_neg (by simp [h c rfl])

/-- A text without blanks at its ends is left alone. -/
theorem trimChars_eq_self (hhead : ∀ c ∈ cs.head?, isBlank c = false)
    (hlast : ∀ c ∈ cs.getLast?, isBlank c = false) : trimChars cs = cs := by
  rw [trimChars, dropWhile_isBlank_eq_self hhead, dropWhile_isBlank_eq_self, List.reverse_reverse]
  rwa [List.head?_reverse]

theorem trimChars_of_forall (h : ∀ c ∈ cs, isBlank c = false) : trimChars cs = cs :=
  trimChars_eq_self (fun c hc => h c (List.mem_of_head? hc))
    fun c hc => h c (List.mem_of_getLast? hc)

theorem trimChars_space (cs : List Char) : trimChars (' ' :: cs) = trimChars cs := by
  rw [trimChars, List.dropWhile_cons_of_pos (by decide), ← trimChars]

end Text

namespace Color

/-! ### Bytes -/

/-- The color of a stored pixel. -/
def ofPixel (p : Pixel) : Color :=
  ⟨ofByte p.r, ofByte p.g, ofByte p.b, ofByte p.a⟩

theorem toByte_ofByte (v : UInt8) : toByte (ofByte v) = v := by
  have hall : ∀ n < 256, toByte (ofByte (UInt8.ofNat n)) = UInt8.ofNat n := by decide +kernel
  rw [← UInt8.ofNat_toNat (x := v)]
  exact hall v.toNat v.toNat_lt

theorem bytes_ofPixel (p : Pixel) : (ofPixel p).bytes = p := by
  simp only [bytes, ofPixel, toByte_ofByte]

/-- The hexadecimal form only depends on the bytes. -/
theorem toHex_congr {c d : Color} (h : c.bytes = d.bytes) : c.toHex = d.toHex := by
  simp only [toHex, h]

/-! ### Hexadecimal digits -/

/-- The two digits of a byte. -/
def hexDigitsOf (v : UInt8) : List ℕ :=
  [v.toNat / 16, v.toNat % 16]

theorem toList_hexByte (v : UInt8) :
    (hexByte v).toList = (hexDigitsOf v).map fun d => (Nat.digitChar d).toUpper := by
  have hall : ∀ n < 256, (List.replicate (2 - (Nat.toDigits 16 n).length) '0' ++
      Nat.toDigits 16 n).map Char.toUpper =
        [(Nat.digitChar (n / 16)).toUpper, (Nat.digitChar (n % 16)).toUpper] := by
    decide +kernel
  rw [hexByte, String.toList_map, Text.hex, String.toList_ofList]
  exact hall v.toNat v.toNat_lt

theorem forall₂_hexByte (v : UInt8) :
    List.Forall₂ IsHexDigit (hexByte v).toList (hexDigitsOf v) := by
  have hlt := v.toNat_lt
  rw [toList_hexByte]
  exact .cons ⟨by omega, .inr rfl⟩ (.cons ⟨by omega, .inr rfl⟩ .nil)

theorem pairBytes_hexDigitsOf (v : UInt8) (ds : List ℕ) :
    pairBytes (hexDigitsOf v ++ ds) = v :: pairBytes ds := by
  change UInt8.ofNat (16 * (v.toNat / 16) + v.toNat % 16) :: pairBytes ds = _
  rw [Nat.div_add_mod, UInt8.ofNat_toNat]

theorem IsHexDigit.isBlank_eq_false {c : Char} {d : ℕ} (h : IsHexDigit c d) :
    Text.isBlank c = false := by
  obtain ⟨hd, hc⟩ := h
  have hall : ∀ d < 16, Text.isBlank (Nat.digitChar d) = false ∧
      Text.isBlank (Nat.digitChar d).toUpper = false := by decide
  rcases hc with rfl | rfl
  · exact (hall d hd).1
  · exact (hall d hd).2

/-- The digits of all bytes that are written. -/
def writtenDigits (p : Pixel) : List ℕ :=
  hexDigitsOf p.r ++ (hexDigitsOf p.g ++ (hexDigitsOf p.b ++
    if p.a = 255 then [] else hexDigitsOf p.a ++ []))

theorem ofByteList?_writtenDigits (p : Pixel) :
    ofByteList? (digitBytes (writtenDigits p)) = some (ofPixel p) := by
  have hlong : ¬(writtenDigits p).length ≤ 4 := by
    rw [writtenDigits]
    split <;> simp [hexDigitsOf]
  rw [digitBytes, if_neg hlong, writtenDigits]
  simp only [pairBytes_hexDigitsOf]
  split
  · next h => rw [ofPixel, h]; rfl
  · rw [pairBytes_hexDigitsOf]; rfl

theorem forall₂_toHex (c : Color) :
    ∃ cs, c.toHex.toList = '#' :: cs ∧ List.Forall₂ IsHexDigit cs (writtenDigits c.bytes) := by
  refine ⟨(hexByte c.bytes.r).toList ++ ((hexByte c.bytes.g).toList ++
    ((hexByte c.bytes.b).toList ++
      if c.bytes.a = 255 then [] else (hexByte c.bytes.a).toList ++ [])), ?_, ?_⟩
  · simp only [toHex, String.toList_append, List.append_assoc]
    split
    · rfl
    · rw [List.append_nil]
      rfl
  · refine List.rel_append (forall₂_hexByte _) (List.rel_append (forall₂_hexByte _)
      (List.rel_append (forall₂_hexByte _) ?_))
    split
    · exact .nil
    · exact List.rel_append (forall₂_hexByte _) .nil

theorem trimChars_hexDigits {cs : List Char} {ds : List ℕ} (h : List.Forall₂ IsHexDigit cs ds) :
    Text.trimChars ('#' :: cs) = '#' :: cs := by
  refine Text.trimChars_of_forall (List.forall_mem_cons.2 ⟨by decide, ?_⟩)
  induction h with
  | nil => exact List.forall_mem_nil _
  | cons hd _ ih => exact List.forall_mem_cons.2 ⟨hd.isBlank_eq_false, ih⟩

/-- The hexadecimal form of a color is that of its stored pixel. -/
theorem isHexColor_toHex (c : Color) : IsHexColor c.toHex (ofPixel c.bytes) := by
  obtain ⟨cs, htext, hdigits⟩ := forall₂_toHex c
  refine ⟨1, le_rfl, cs, ?_, writtenDigits c.bytes, hdigits, ?_, ofByteList?_writtenDigits c.bytes⟩
  · rw [htext, trimChars_hexDigits hdigits]
    rfl
  · rw [writtenDigits]
    split <;> simp [hexDigitsOf]

theorem ofHex_toHex (c : Color) : ofHex c.toHex = .ok (ofPixel c.bytes) :=
  (isHexColor_iff.1 (isHexColor_toHex c)).1

theorem ofCss_toHex (c : Color) : ofCss c.toHex = .ok (ofPixel c.bytes) := by
  obtain ⟨cs, htext, hdigits⟩ := forall₂_toHex c
  rw [ofCss, if_pos (by rw [htext, trimChars_hexDigits hdigits]; rfl), ofHex_toHex]

/-! ### Arguments -/

theorem InUnit.clamp_eq_self {x : Float32} (h : InUnit x) : Binary32.clamp x 0 1 = x := by
  have hnan := h.isNaN_eq_false
  rw [Binary32.clamp, if_neg ((Binary32.not_lt_iff hnan (by decide)).2 h.1),
    if_neg ((Binary32.not_lt_iff (by decide) hnan).2 h.2)]

theorem argument?_byte (v : UInt8) : argument? (toString v.toNat).toList = some v.toFloat32 := by
  have hall : ∀ n < 256, argument? (Nat.toDigits 10 (UInt8.ofNat n).toNat) =
      some (UInt8.ofNat n).toFloat32 := by decide +kernel
  rw [Nat.toString_eq_repr, Nat.toList_repr, ← UInt8.ofNat_toNat (x := v)]
  exact hall v.toNat v.toNat_lt

/-- The digits of a byte are read as that byte in 255ths. -/
theorem channel?_byte (v : UInt8) : channel? (toString v.toNat).toList = some (ofByte v) := by
  rw [channel?, argument?_byte, Option.map_some]
  exact congrArg some (inUnit_ofByte v).clamp_eq_self

/-- A character that reading a color does not change, remove or split at. -/
def IsPlain (c : Char) : Prop :=
  Text.isBlank c = false ∧ c ≠ ',' ∧ c.toLower = c

instance (c : Char) : Decidable (IsPlain c) :=
  inferInstanceAs (Decidable (_ ∧ _))

theorem isPlain_of_isDigit {c : Char} (h : c.isDigit) : IsPlain c := by
  obtain ⟨hlow, hhigh⟩ : 48 ≤ c.toNat ∧ c.toNat ≤ 57 := Char.isDigit_iff_toNat.1 h
  refine ⟨?_, ?_, Numeral.toLower_of_isDigit h⟩
  · simp only [Text.isBlank, Text.inRanges, Text.blankRanges, List.any_cons, List.any_nil,
      Bool.or_false, Bool.or_eq_false_iff, Bool.and_eq_false_iff, decide_eq_false_iff_not]
    omega
  · rintro rfl
    cases h

theorem isPlain_byte (v : UInt8) : ∀ c ∈ (toString v.toNat).toList, IsPlain c := by
  intro c hc
  rw [Nat.toString_eq_repr, Nat.toList_repr] at hc
  exact isPlain_of_isDigit (Decimal.isDigit_of_mem_toDigits hc)

theorem isPlain_positional (d : Decimal) : ∀ c ∈ d.positional.toList, IsPlain c := by
  obtain ⟨whole, fraction, htext, -, hdigits, -⟩ := d.isPositional_positional
  have hplain : ∀ c ∈ whole ++ fraction, IsPlain c := fun c hc => isPlain_of_isDigit (hdigits c hc)
  rw [List.forall_mem_append] at hplain
  rw [htext, Numeral.pointed]
  split
  · exact hplain.1
  · exact List.forall_mem_append.2 ⟨hplain.1, List.forall_mem_cons.2 ⟨by decide, hplain.2⟩⟩

theorem isPlain_toText {x : Float32} (hx : x.isNaN = false) :
    ∀ c ∈ (Binary32.toText x).toList, IsPlain c := by
  rw [Binary32.isNaN_eq] at hx
  rw [Binary32.toText]
  cases hparts : Binary32.parts x with
  | notANumber =>
    rw [hparts] at hx
    cases hx
  | infinity s | zero s =>
    cases s <;> simp only [Binary.textBy, String.reduceToList, List.forall_mem_cons,
      List.not_mem_nil, false_imp_iff, implies_true, and_true] <;> decide
  | finite s m e hm =>
    cases s with
    | positive => exact isPlain_positional _
    | negative =>
      rw [Binary.textBy, String.toList_append]
      exact List.forall_mem_cons.2 ⟨by decide, isPlain_positional _⟩

/-! ### The form with arguments -/

theorem commaParts_of_notMem {part : List Char} (h : ',' ∉ part) : commaParts part = [part] := by
  induction part with
  | nil => rfl
  | cons c part ih =>
    rw [List.mem_cons, not_or] at h
    rw [commaParts, if_neg (Ne.symm h.1), ih h.2]

theorem commaParts_append {part : List Char} (h : ',' ∉ part) (rest : List Char) :
    commaParts (part ++ ',' :: rest) = part :: commaParts rest := by
  induction part with
  | nil => rfl
  | cons c part ih =>
    rw [List.mem_cons, not_or] at h
    rw [List.cons_append, commaParts, if_neg (Ne.symm h.1), ih h.2]

/-- What is written between the parentheses. -/
def writtenArguments (c : Color) : List Char :=
  (toString c.bytes.r.toNat).toList ++ ',' :: ' ' :: ((toString c.bytes.g.toNat).toList ++
    ',' :: ' ' :: ((toString c.bytes.b.toNat).toList ++
      ',' :: ' ' :: (Binary32.toText (Binary32.clamp c.a 0 1)).toList))

theorem toList_toCss (c : Color) :
    c.toCss.toList = "rgba(".toList ++ c.writtenArguments ++ [')'] := by
  have hcomma : ", ".toList = [',', ' '] := rfl
  have hclose : ")".toList = [')'] := rfl
  simp only [toCss, writtenArguments, String.toList_append, List.append_assoc, hcomma, hclose,
    List.cons_append, List.nil_append]

theorem trimChars_plain {cs : List Char} (h : ∀ c ∈ cs, IsPlain c) : Text.trimChars cs = cs :=
  Text.trimChars_of_forall fun c hc => (h c hc).1

theorem notMem_plain {cs : List Char} (h : ∀ c ∈ cs, IsPlain c) : ',' ∉ cs :=
  fun hc => (h ',' hc).2.1 rfl

theorem map_toLower_plain {cs : List Char} (h : ∀ c ∈ cs, IsPlain c) : cs.map Char.toLower = cs :=
  (List.map_congr_left fun c hc => (h c hc).2.2).trans (List.map_id cs)

theorem channel?_space (cs : List Char) : channel? (' ' :: cs) = channel? cs := by
  rw [channel?, argument?, Text.trimChars_space]
  rfl

theorem opacity?_space (cs : List Char) : opacity? (' ' :: cs) = opacity? cs := by
  rw [opacity?, argument?, Text.trimChars_space]
  rfl

theorem opacity?_toText {x : Float32} (hx : x.isNaN = false) :
    opacity? (Binary32.toText x).toList = some (Binary32.clamp x 0 1) := by
  have hread : argument? (Binary32.toText x).toList = some x := by
    rw [argument?, trimChars_plain (isPlain_toText hx)]
    exact Binary32.ofText?_toText hx
  rw [opacity?, hread, Option.map_some]

theorem inUnit_clamp {x : Float32} (hx : x.isNaN = false) : InUnit (Binary32.clamp x 0 1) :=
  Binary32.clamp_mem hx (by decide)

section

variable {c : Color} (ha : c.a.isNaN = false)

include ha

theorem commaParts_writtenArguments : commaParts c.writtenArguments =
    [(toString c.bytes.r.toNat).toList, ' ' :: (toString c.bytes.g.toNat).toList,
      ' ' :: (toString c.bytes.b.toNat).toList,
      ' ' :: (Binary32.toText (Binary32.clamp c.a 0 1)).toList] := by
  have hbyte (v : UInt8) : ',' ∉ (toString v.toNat).toList := notMem_plain (isPlain_byte v)
  have hspace {part : List Char} (h : ',' ∉ part) : ',' ∉ ' ' :: part :=
    List.not_mem_cons_of_ne_of_not_mem (by decide) h
  rw [writtenArguments, commaParts_append (hbyte _), ← List.cons_append,
    commaParts_append (hspace (hbyte _)), ← List.cons_append, commaParts_append (hspace (hbyte _)),
    commaParts_of_notMem (hspace (notMem_plain (isPlain_toText (inUnit_clamp ha).isNaN_eq_false)))]

/-- What is written between the parentheses is read as the stored color, but with the opacity that
was only moved into range. -/
theorem ofArguments?_written : ofArguments? (commaParts c.writtenArguments) =
    some ((ofPixel c.bytes).withAlpha (Binary32.clamp c.a 0 1)) := by
  have hopacity := inUnit_clamp ha
  rw [commaParts_writtenArguments ha, ofArguments?]
  simp only [channel?_space, opacity?_space, channel?_byte, opacity?_toText hopacity.isNaN_eq_false,
    hopacity.clamp_eq_self]
  rfl

theorem map_toLower_writtenArguments :
    c.writtenArguments.map Char.toLower = c.writtenArguments := by
  have hopacity := map_toLower_plain (isPlain_toText (inUnit_clamp ha).isNaN_eq_false)
  have hcomma : Char.toLower ',' = ',' := by decide
  have hspace : Char.toLower ' ' = ' ' := by decide
  simp only [writtenArguments, List.map_append, List.map_cons, hcomma, hspace,
    map_toLower_plain (isPlain_byte _), hopacity]

theorem map_toLower_toCss : c.toCss.toList.map Char.toLower = c.toCss.toList := by
  have hname : "rgba(".toList.map Char.toLower = "rgba(".toList := by decide
  have hclose : [')'].map Char.toLower = [')'] := by decide
  rw [toList_toCss, List.map_append, List.map_append, map_toLower_writtenArguments ha, hname,
    hclose]

end

theorem isFunction_toCss (c : Color) : IsFunction c.toCss.toList c.writtenArguments :=
  ⟨"rgba(", by simp, toList_toCss c⟩

theorem trimChars_toCss (c : Color) : Text.trimChars c.toCss.toList = c.toCss.toList := by
  refine Text.trimChars_eq_self (fun x hx => ?_) fun x hx => ?_
  · rw [(isFunction_toCss c).head?] at hx
    cases hx
    decide
  · rw [toList_toCss, List.getLast?_concat] at hx
    cases hx
    decide

theorem ofCss_toCss {c : Color} (ha : c.a.isNaN = false) :
    ofCss c.toCss = .ok ((ofPixel c.bytes).withAlpha (Binary32.clamp c.a 0 1)) := by
  have hfunction := isFunction_toCss c
  have hsign : c.toCss.toList.head? ≠ some '#' := by
    rw [hfunction.head?]
    decide
  have htransparent : c.toCss.toList ≠ "transparent".toList := fun heq => by
    have hhead := hfunction.head?
    rw [heq] at hhead
    cases hhead
  simp only [ofCss, trimChars_toCss, map_toLower_toCss ha, if_neg hsign, if_neg htransparent,
    arguments?_eq_some_iff.2 hfunction, ofArguments?_written ha]

/-- **Both written forms of a color are read as the color that is drawn.** The hexadecimal form is
read as a color with the same bytes, which is written in the same way again.  The form with
arguments is read as a color with the same red, green and blue bytes, and with the opacity moved
into `[0, 1]`.  The components need not be in range, and only the opacity is asked to be a number. -/
theorem written_forms (c : Color) (ha : c.a.isNaN = false) :
    (∃ d, ofHex c.toHex = .ok d ∧ ofCss c.toHex = .ok d ∧
      d.bytes = c.bytes ∧ d.toHex = c.toHex) ∧
    ∃ d, ofCss c.toCss = .ok d ∧ d.bytes.r = c.bytes.r ∧ d.bytes.g = c.bytes.g ∧
      d.bytes.b = c.bytes.b ∧ d.a = Binary32.clamp c.a 0 1 := by
  have hbytes := bytes_ofPixel c.bytes
  exact ⟨⟨_, ofHex_toHex c, ofCss_toHex c, hbytes, toHex_congr hbytes⟩,
    _, ofCss_toCss ha, toByte_ofByte _, toByte_ofByte _, toByte_ofByte _, rfl⟩

/-- Components on both sides of the range: negative, infinite, and in between. -/
theorem written_forms_outside : toHex ⟨-1, 1 / 0, 0.5, 0.1⟩ = "#00FF801A" ∧
    toCss ⟨-1, 1 / 0, 0.5, 0.1⟩ = "rgba(0, 255, 128, 0.1)" ∧
    ∃ d, ofCss "rgba(0, 255, 128, 0.1)" = .ok d ∧ d.bytes.r = 0 ∧ d.bytes.g = 255 ∧
      d.bytes.b = 128 ∧ d.a = 0.1 := by
  have hhex : toHex ⟨-1, 1 / 0, 0.5, 0.1⟩ = "#00FF801A" := by decide +kernel
  have hcss : toCss ⟨-1, 1 / 0, 0.5, 0.1⟩ = "rgba(0, 255, 128, 0.1)" := by decide +kernel
  have hread := (written_forms ⟨-1, 1 / 0, 0.5, 0.1⟩ (by decide)).2
  rw [hcss] at hread
  exact ⟨hhex, hcss, hread⟩

end Color

end SceneLoop
