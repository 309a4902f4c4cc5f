import Mathlib
import SceneLoop.Number.Reading
import SceneLoop.Proofs.Number.Shortest

/-!
# Positional text

A decimal is written as its digits, with zeros after them or with a point between them, and zeros
before them where the point needs a digit in front.  Reading that text gives the digits and the
place of the point back, so it gives the same number.

## Main definitions

* `Numeral.pointed` : digits before a point and after it.
* `Numeral.IsPositional` : texts of digits that stand for a number.

## Main results

* `Decimal.isPositional_positional` : a decimal is written as a text that stands for it.
* `Numeral.ofChars?_pointed` : what such a text is read as, with a sign or without one.
-/

namespace SceneLoop

namespace Numeral

/-- Digits before a point and after it; the point is left out if there are none after it. -/
def pointed (whole fraction : List Char) : List Char :=
  if fraction = [] then whole else whole ++ '.' :: fraction

/-- A text of digits, the last of them after a point, that stands for a number. -/
def IsPositional (cs : List Char) (q : ℚ) : Prop :=
  ∃ whole fraction, cs = pointed whole fraction ∧ whole ≠ [] ∧
    (∀ c ∈ whole ++ fraction, c.isDigit) ∧
    (ofDigits (whole ++ fraction) : ℚ) * 10 ^ (-(fraction.length : ℤ)) = q

/-! ### Writing -/

theorem ofDigits_replicate_append (k : ℕ) (cs : List Char) :
    ofDigits (List.replicate k '0' ++ cs) = ofDigits cs := by
  change Nat.ofDigitChars 10 _ 0 = Nat.ofDigitChars 10 _ 0
  rw [Nat.ofDigitChars_append, Nat.ofDigitChars_replicate_zero, Nat.mul_zero]

theorem ofDigits_append_replicate (k : ℕ) (cs : List Char) :
    ofDigits (cs ++ List.replicate k '0') = ofDigits cs * 10 ^ k := by
  change Nat.ofDigitChars 10 _ 0 = Nat.ofDigitChars 10 _ 0 * _
  rw [Nat.ofDigitChars_append, Nat.ofDigitChars_replicate_zero, Nat.mul_comm]

theorem ofDigits_toDigits (n : ℕ) : ofDigits (Nat.toDigits 10 n) = n :=
  Nat.ofDigitChars_ten_toDigits

end Numeral

namespace Decimal

open Numeral

theorem toList_pushn (s : String) (c : Char) (k : ℕ) :
    (s.pushn c k).toList = s.toList ++ List.replicate k c := by
  rw [String.pushn_eq_repeat_push]
  induction k with
  | zero => simp [Nat.repeat]
  | succ k ih => rw [Nat.repeat, String.toList_push, ih, List.append_assoc, List.replicate_succ']

theorem isDigit_of_mem_toDigits {n : ℕ} {c : Char} (h : c ∈ Nat.toDigits 10 n) : c.isDigit :=
  Nat.isDigit_of_mem_toDigits (by decide) (by decide) h

/-- Digits with a point before the last of them. -/
theorem isPositional_placePoint {places : ℕ} (hplaces : 0 < places) (digits : ℕ) :
    IsPositional (placePoint places digits).toList (digits * 10 ^ (-(places : ℤ))) := by
  obtain ⟨padded, hpadded, hdigits, hvalue, hlength⟩ : ∃ padded : List Char,
      ("".pushn '0' (places + 1 - (toString digits).length) ++ toString digits).toList = padded ∧
        (∀ c ∈ padded, c.isDigit) ∧ ofDigits padded = digits ∧ places < padded.length := by
    refine ⟨_, rfl, ?_⟩
    rw [String.toList_append, toList_pushn, String.toList_empty, List.nil_append,
      Nat.toString_eq_repr, Nat.toList_repr]
    refine ⟨fun c hc => ?_, ?_, ?_⟩
    · rcases List.mem_append.1 hc with hc | hc
      · rw [(List.mem_replicate.1 hc).2]
        rfl
      · exact isDigit_of_mem_toDigits hc
    · rw [ofDigits_replicate_append, ofDigits_toDigits]
    · rw [List.length_append, List.length_replicate, ← String.length_toList, Nat.toList_repr]
      omega
  have hfraction : (padded.drop (padded.length - places)).length = places := by
    rw [List.length_drop]
    omega
  refine ⟨padded.take (padded.length - places), padded.drop (padded.length - places),
    ?_, ?_, ?_, ?_⟩
  · have hne : padded.drop (padded.length - places) ≠ [] := fun hnil => by
      rw [hnil, List.length_nil] at hfraction
      omega
    rw [placePoint, if_neg hplaces.ne', pointed, if_neg hne, ← hpadded]
    simp only [String.toList_append, String.toList_ofList, ← String.length_toList,
      List.append_assoc]
    rfl
  · intro hnil
    have hlen := congrArg List.length hnil
    rw [List.length_take, List.length_nil] at hlen
    omega
  · rwa [List.take_append_drop]
  · rw [List.take_append_drop, hvalue, hfraction]

/-- A decimal is written as a text that stands for it. -/
theorem isPositional_positional (d : Decimal) : IsPositional d.positional.toList d.value := by
  obtain ⟨digits, exponent⟩ := d
  cases exponent with
  | ofNat k =>
    refine ⟨Nat.toDigits 10 digits ++ List.replicate k '0', [], ?_, ?_, ?_, ?_⟩
    · change ((toString digits).pushn '0' k).toList = _
      rw [toList_pushn, pointed, if_pos rfl, Nat.toString_eq_repr, Nat.toList_repr]
    · exact List.append_ne_nil_of_left_ne_nil Nat.toDigits_ne_nil _
    · intro c hc
      rw [List.append_nil] at hc
      rcases List.mem_append.1 hc with hc | hc
      · exact isDigit_of_mem_toDigits hc
      · rw [(List.mem_replicate.1 hc).2]
        rfl
    · rw [List.append_nil, ofDigits_append_replicate, ofDigits_toDigits, value]
      simp
  | negSucc k => exact isPositional_placePoint (Nat.succ_pos k) digits

end Decimal

namespace Numeral

/-! ### Reading -/

section

variable {whole fraction : List Char} (hwhole : whole ≠ [])
  (hdigits : ∀ c ∈ whole ++ fraction, c.isDigit)

include hdigits in
theorem splitDigits_pointed : splitDigits (pointed whole fraction) = (whole, fraction, []) := by
  have hfirst : ∀ c ∈ whole, c.isDigit := fun c hc => hdigits c (List.mem_append_left _ hc)
  have hlast : ∀ c ∈ fraction, c.isDigit := fun c hc => hdigits c (List.mem_append_right _ hc)
  have hrest (cs : List Char) (hcs : ∀ c ∈ cs, c.isDigit) : cs.dropWhile Char.isDigit = [] :=
    List.dropWhile_eq_nil_iff.2 hcs
  rw [pointed]
  split
  · next h =>
    rw [splitDigits, hrest whole hfirst, List.takeWhile_eq_self_iff.2 hfirst, h]
  · have hpoint : ('.' :: fraction).dropWhile Char.isDigit = '.' :: fraction :=
      List.dropWhile_cons_of_neg (by decide)
    have hpoint' : ('.' :: fraction).takeWhile Char.isDigit = [] :=
      List.takeWhile_cons_of_neg (by decide)
    rw [splitDigits, List.dropWhile_append_of_pos hfirst, List.takeWhile_append_of_pos hfirst,
      hpoint, hpoint', List.append_nil]
    simp only [hrest fraction hlast, List.takeWhile_eq_self_iff.2 hlast]

include hwhole hdigits in
theorem decimalOf?_pointed (negative : Bool) : decimalOf? negative (pointed whole fraction) =
    some (.decimal negative (ofDigits (whole ++ fraction)) (-fraction.length)) := by
  rw [decimalOf?, splitDigits_pointed hdigits]
  simp [hwhole]

/-- A sign, if there is one. -/
def sign (negative : Bool) : List Char :=
  if negative then ['-'] else []

theorem toLower_of_isDigit {c : Char} (h : c.isDigit) : c.toLower = c := by
  refine Char.toLower_eq_of_not_isUpper fun hupper => ?_
  have hdigit : c.toNat ≤ 57 := (Char.isDigit_iff_toNat.1 h).2
  have hletter : 65 ≤ c.toNat := by
    simp only [Char.isUpper, decide_eq_true_eq] at hupper
    exact hupper.1
  omega

include hwhole hdigits in
theorem exists_pointed_eq_cons : ∃ c rest, pointed whole fraction = c :: rest ∧ c.isDigit := by
  obtain ⟨c, whole, rfl⟩ := List.exists_cons_of_ne_nil hwhole
  refine ⟨c, ?_⟩
  rw [pointed]
  split
  · exact ⟨whole, rfl, hdigits c (by simp)⟩
  · exact ⟨_, rfl, hdigits c (by simp)⟩

include hwhole hdigits in
/-- What digits with a point are read as, with a sign or without one. -/
theorem ofChars?_pointed (negative : Bool) :
    ofChars? (sign negative ++ pointed whole fraction) =
      some (.decimal negative (ofDigits (whole ++ fraction)) (-fraction.length)) := by
  obtain ⟨c, rest, hcons, hc⟩ := exists_pointed_eq_cons hwhole hdigits
  have hsplit : splitSign (sign negative ++ pointed whole fraction) =
      (negative, pointed whole fraction) := by
    cases negative with
    | true => rfl
    | false =>
      rw [hcons]
      change splitSign (c :: rest) = _
      rw [splitSign]
      · rintro rest' heq
        cases heq
        cases hc
      · rintro rest' heq
        cases heq
        cases hc
  have hlower : (pointed whole fraction).map Char.toLower = c :: rest.map Char.toLower := by
    rw [hcons, List.map_cons, toLower_of_isDigit hc]
  rw [ofChars?, hsplit]
  simp only [hlower]
  -- a digit does not begin the name of an infinity or of what is not a number
  split
  · next h =>
    obtain ⟨rfl, -⟩ := List.cons.inj h
    cases hc
  · next h =>
    obtain ⟨rfl, -⟩ := List.cons.inj h
    cases hc
  · next h =>
    obtain ⟨rfl, -⟩ := List.cons.inj h
    cases hc
  · exact decimalOf?_pointed hwhole hdigits negative

end

end Numeral

end SceneLoop
