import Mathlib
import SceneLoop.Color

/-!
# Hexadecimal notation

A color in hexadecimal notation is three, four, six or eight hexadecimal digits after at most one
number sign, with blanks around it.  Up to four digits stand for two equal ones each, and every two
digits for a component in 255ths; the opacity is full if it is left out.  The reader takes this
notation and a little more: any number of number signs, and a plus sign in place of the first digit
of two.

## Main definitions

* `Color.IsHexDigit` : a hexadecimal digit and its value.
* `Color.IsHexColor` : the notation.
* `Color.plusAsZero` : what the reader makes of plus signs.

## Main results

* `Color.ofHexChars?_eq_some_iff` : which characters the reader takes for the digits of a color.
* `Color.isHexColor_iff` : the notation among the texts that are read.
* `Color.ofHex_exact` : exactly what is read, and when it is in the notation.
-/

namespace SceneLoop

namespace Color

/-! ### The notation -/

/-- A hexadecimal digit, in either letter case, and its value. -/
def IsHexDigit (c : Char) (d : Nat) : Prop :=
  d < 16 ∧ (c = Nat.digitChar d ∨ c = (Nat.digitChar d).toUpper)

instance (c : Char) (d : Nat) : Decidable (IsHexDigit c d) :=
  inferInstanceAs (Decidable (_ ∧ _))

/-- The bytes that every two digits stand for. -/
def pairBytes : List Nat → List UInt8
  | high :: low :: rest => UInt8.ofNat (16 * high + low) :: pairBytes rest
  | _ => []

/-- The bytes of some digits, each of which is doubled if there are at most four. -/
def digitBytes (ds : List Nat) : List UInt8 :=
  if ds.length ≤ 4 then pairBytes (ds.flatMap fun d => [d, d]) else pairBytes ds

/-- The color with the given components in 255ths, of which the opacity may be left out. -/
def ofByteList? : List UInt8 → Option Color
  | [r, g, b] => some ⟨ofByte r, ofByte g, ofByte b, ofByte 255⟩
  | [r, g, b, a] => some ⟨ofByte r, ofByte g, ofByte b, ofByte a⟩
  | _ => none

/-- Three, four, six or eight hexadecimal digits and their color. -/
def IsHexDigits (cs : List Char) (c : Color) : Prop :=
  ∃ ds, List.Forall₂ IsHexDigit cs ds ∧ ds.length ∈ [3, 4, 6, 8] ∧
    ofByteList? (digitBytes ds) = some c

/-- A color in hexadecimal notation: digits after at most one number sign, with blanks around
them. -/
def IsHexColor (s : String) (c : Color) : Prop :=
  ∃ n ≤ 1, ∃ cs, Text.trimChars s.toList = List.replicate n '#' ++ cs ∧ IsHexDigits cs c

/-! ### Digits -/

theorem hexDigit?_digitChar {d : Nat} (h : d < 16) :
    Json.hexDigit? (Nat.digitChar d) = some d ∧
      Json.hexDigit? (Nat.digitChar d).toUpper = some d := by
  interval_cases d <;> decide

/-- Only characters among the first 128 are hexadecimal digits. -/
theorem toNat_lt_of_hexDigit? {c : Char} {d : Nat} (h : Json.hexDigit? c = some d) :
    c.toNat < 128 := by
  rw [Json.hexDigit?] at h
  split at h
  · next hdigit => exact (Char.isDigit_iff_toNat.1 hdigit).2.trans_lt (by decide)
  split at h
  · next hsmall => exact (show c.toNat ≤ 102 from hsmall.2).trans_lt (by decide)
  split at h
  · next hlarge => exact (show c.toNat ≤ 70 from hlarge.2).trans_lt (by decide)
  · cases h

theorem hexDigit?_eq_some_iff {c : Char} {d : Nat} :
    Json.hexDigit? c = some d ↔ IsHexDigit c d := by
  constructor
  · intro h
    have hall : ∀ n < 128, ∀ d ∈ Json.hexDigit? (Char.ofNat n), IsHexDigit (Char.ofNat n) d := by
      decide +kernel
    have hc := hall c.toNat (toNat_lt_of_hexDigit? h) d
    rw [Char.ofNat_toNat] at hc
    exact hc h
  · rintro ⟨hd, rfl | rfl⟩
    · exact (hexDigit?_digitChar hd).1
    · exact (hexDigit?_digitChar hd).2

theorem IsHexDigit.ne {c : Char} {d : Nat} (h : IsHexDigit c d) : c ≠ '#' ∧ c ≠ '+' := by
  have hdigit := hexDigit?_eq_some_iff.2 h
  constructor <;> rintro rfl <;> simp [Json.hexDigit?] at hdigit

/-! ### Components -/

/-- What the reader makes of plus signs among digits: one that stands for the first digit of two is
read as a zero. -/
def plusAsZero : List Char → List Char
  | c :: c' :: rest => (if c = '+' then '0' else c) :: c' :: plusAsZero rest
  | cs => cs

/-- The characters that the reader takes for digits: in the long forms a plus sign may be among
them. -/
def readAsDigits (cs : List Char) : List Char :=
  if cs.length ≤ 4 then cs else plusAsZero cs

theorem hexSingle?_eq_some_iff {c : Char} {v : UInt8} :
    hexSingle? c = some v ↔ ∃ d, IsHexDigit c d ∧ UInt8.ofNat (16 * d + d) = v := by
  have hdouble (d : Nat) : 17 * d = 16 * d + d := by omega
  simp only [hexSingle?, Option.map_eq_some_iff, hexDigit?_eq_some_iff, hdouble]

theorem hexPair?_eq_some_iff {c c' : Char} {v : UInt8} :
    hexPair? c c' = some v ↔ ∃ high low, IsHexDigit (if c = '+' then '0' else c) high ∧
      IsHexDigit c' low ∧ UInt8.ofNat (16 * high + low) = v := by
  have hzero {d : Nat} : IsHexDigit '0' d ↔ d = 0 := by
    rw [← hexDigit?_eq_some_iff]
    exact eq_comm.trans Option.some_inj
  rw [hexPair?]
  split
  · simp [hexDigit?_eq_some_iff, hzero]
  · simp only [← hexDigit?_eq_some_iff]
    cases Json.hexDigit? c <;> cases Json.hexDigit? c' <;> simp

theorem ofChannels?_eq_some_iff {r g b a : Option UInt8} {c : Color} :
    ofChannels? r g b a = some c ↔ ∃ r' g' b' a', r = some r' ∧ g = some g' ∧ b = some b' ∧
      a = some a' ∧ (⟨ofByte r', ofByte g', ofByte b', ofByte a'⟩ : Color) = c := by
  cases r <;> cases g <;> cases b <;> cases a <;> simp [ofChannels?, ofBytes, withAlpha]

theorem length_plusAsZero (cs : List Char) : (plusAsZero cs).length = cs.length := by
  fun_induction plusAsZero cs with
  | case1 c c' rest ih => simp only [List.length_cons, ih]
  | case2 => rfl

theorem length_readAsDigits (cs : List Char) : (readAsDigits cs).length = cs.length := by
  rw [readAsDigits]
  split
  · rfl
  · exact length_plusAsZero cs

/-- The reader takes some characters for the digits of a color if they are digits once plus signs
are read as zeros. -/
theorem ofHexChars?_eq_some_iff {cs : List Char} {c : Color} :
    ofHexChars? cs = some c ↔ IsHexDigits (readAsDigits cs) c := by
  fun_cases ofHexChars? cs with
  | case1 | case2 =>
    simp [readAsDigits, IsHexDigits, List.forall₂_cons_left_iff, digitBytes, pairBytes,
      ofByteList?, ofChannels?_eq_some_iff, hexSingle?_eq_some_iff, and_assoc]
  | case3 | case4 =>
    simp [readAsDigits, plusAsZero, IsHexDigits, List.forall₂_cons_left_iff, digitBytes, pairBytes,
      ofByteList?, ofChannels?_eq_some_iff, hexPair?_eq_some_iff, and_assoc]
  | case5 cs h3 h4 h6 h8 =>
    refine iff_of_false nofun ?_
    rintro ⟨ds, hds, hlength, -⟩
    rw [← hds.length_eq, length_readAsDigits] at hlength
    simp [List.length_eq_succ_iff] at hlength
    grind

theorem plusAsZero_eq_self {cs : List Char} (h : '+' ∉ cs) : plusAsZero cs = cs := by
  fun_induction plusAsZero cs with
  | case1 c c' rest ih =>
    simp only [List.mem_cons, not_or] at h
    rw [if_neg (Ne.symm h.1), ih h.2.2]
  | case2 => rfl

theorem readAsDigits_eq_self {cs : List Char} (h : '+' ∉ cs) : readAsDigits cs = cs := by
  rw [readAsDigits, plusAsZero_eq_self h, ite_self]

theorem mem_plusAsZero {cs : List Char} (h : '#' ∈ cs) : '#' ∈ plusAsZero cs := by
  fun_induction plusAsZero cs with
  | case1 c c' rest ih => grind
  | case2 => exact h

/-- Number signs among the characters are still there when plus signs are read as zeros. -/
theorem mem_readAsDigits {cs : List Char} (h : '#' ∈ cs) : '#' ∈ readAsDigits cs := by
  rw [readAsDigits]
  split
  · exact h
  · exact mem_plusAsZero h

/-- No digit is a number sign or a plus sign. -/
theorem IsHexDigits.notMem {cs : List Char} {c : Color} (h : IsHexDigits cs c) :
    '#' ∉ cs ∧ '+' ∉ cs := by
  obtain ⟨ds, hds, -, -⟩ := h
  induction hds with
  | nil => exact ⟨List.not_mem_nil, List.not_mem_nil⟩
  | cons hd _ ih =>
    simp only [List.mem_cons, not_or]
    exact ⟨⟨hd.ne.1.symm, ih.1⟩, ⟨hd.ne.2.symm, ih.2⟩⟩

/-! ### Texts -/

/-- A text is read if, after any number signs in front, it is digits once plus signs are read as
zeros. -/
theorem ofHex_eq_ok_iff {s : String} {c : Color} :
    ofHex s = .ok c ↔ ∃ n cs, Text.trimChars s.toList = List.replicate n '#' ++ cs ∧
      IsHexDigits (readAsDigits cs) c := by
  have hread : ofHex s = .ok c ↔ IsHexDigits (readAsDigits (hexDigits s)) c := by
    rw [← ofHexChars?_eq_some_iff, ofHex]
    cases ofHexChars? (hexDigits s) <;> simp
  rw [hread, hexDigits]
  generalize Text.trimChars s.toList = t
  constructor
  · intro h
    have hsigns : t.takeWhile (· = '#') = List.replicate (t.takeWhile (· = '#')).length '#' :=
      List.eq_replicate_iff.2 ⟨rfl, fun x hx => by simpa using List.mem_takeWhile_imp hx⟩
    exact ⟨_, _, by rw [← hsigns, List.takeWhile_append_dropWhile], h⟩
  · rintro ⟨n, cs, rfl, h⟩
    have hdrop : cs.dropWhile (· = '#') = cs := by
      have hsign : '#' ∉ cs := fun hmem => h.notMem.1 (mem_readAsDigits hmem)
      cases cs with
      | nil => rfl
      | cons x rest => exact List.dropWhile_cons_of_neg (by simp_all [eq_comm])
    rwa [List.dropWhile_append_of_pos (by simp), hdrop]

theorem ofHex_eq_error_iff {s : String} {e : ColorError} :
    ofHex s = .error e ↔ e = .invalidHex ∧ ∀ c, ofHex s ≠ .ok c := by
  rw [ofHex]
  cases ofHexChars? (hexDigits s) <;> simp [eq_comm]

/-- The texts in hexadecimal notation are those that are read and have at most one number sign in
front and no plus sign. -/
theorem isHexColor_iff {s : String} {c : Color} :
    IsHexColor s c ↔ ofHex s = .ok c ∧ ¬['#', '#'] <+: Text.trimChars s.toList ∧
      '+' ∉ Text.trimChars s.toList := by
  rw [ofHex_eq_ok_iff, IsHexColor]
  generalize Text.trimChars s.toList = t
  constructor
  · rintro ⟨n, hn, cs, rfl, hcs⟩
    obtain ⟨hsign, hplus⟩ := hcs.notMem
    refine ⟨⟨n, cs, rfl, by rwa [readAsDigits_eq_self hplus]⟩, ?_, by simp [hplus]⟩
    have hfirst : ¬['#'] <+: cs := fun h => hsign (h.mem (List.mem_singleton_self _))
    interval_cases n
    · exact fun h => hfirst ((List.prefix_append ['#'] ['#']).trans h)
    · exact fun h => hfirst ((List.prefix_cons_inj _).1 h)
  · rintro ⟨⟨n, cs, rfl, hcs⟩, hsigns, hplus⟩
    have hn : n ≤ 1 := by
      by_contra hn
      obtain ⟨k, rfl⟩ : ∃ k, n = k + 2 := ⟨n - 2, by omega⟩
      exact hsigns (List.prefix_append ['#', '#'] (List.replicate k '#' ++ cs))
    rw [readAsDigits_eq_self fun h => hplus (List.mem_append_right _ h)] at hcs
    exact ⟨n, hn, cs, rfl, hcs⟩

/-- **What is read as a color in hexadecimal digits.** A text is read if, without the blanks around
it and any number signs in front, it is three, four, six or eight hexadecimal digits once a plus
sign that stands for the first digit of two is taken for a zero; any other text is refused as no
hexadecimal color.  The texts in hexadecimal notation are those among the texts read that have at
most one number sign in front and no plus sign. -/
theorem ofHex_exact (s : String) :
    (∀ c, ofHex s = .ok c ↔ ∃ n cs, Text.trimChars s.toList = List.replicate n '#' ++ cs ∧
      IsHexDigits (readAsDigits cs) c) ∧
    (∀ e, ofHex s = .error e ↔ e = .invalidHex ∧ ∀ c, ofHex s ≠ .ok c) ∧
    ∀ c, IsHexColor s c ↔ ofHex s = .ok c ∧ ¬['#', '#'] <+: Text.trimChars s.toList ∧
      '+' ∉ Text.trimChars s.toList :=
  ⟨fun _ => ofHex_eq_ok_iff, fun _ => ofHex_eq_error_iff, fun _ => isHexColor_iff⟩

/-- The reader takes a text with two number signs and a text with plus signs, neither of which is in
hexadecimal notation. -/
theorem ofHex_lenient :
    (ofHex "##333" = .ok (ofBytes 51 51 51) ∧ ¬∃ c, IsHexColor "##333" c) ∧
      ofHex "#+1+2+3" = .ok (ofBytes 1 2 3) ∧ ¬∃ c, IsHexColor "#+1+2+3" c := by
  refine ⟨⟨by decide +kernel, ?_⟩, by decide +kernel, ?_⟩
  · rintro ⟨c, hc⟩
    exact (isHexColor_iff.1 hc).2.1 (by decide)
  · rintro ⟨c, hc⟩
    exact (isHexColor_iff.1 hc).2.2 (by decide)

end Color

end SceneLoop
