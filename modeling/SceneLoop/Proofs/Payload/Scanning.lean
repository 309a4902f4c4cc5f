import SceneLoop.Payload.Extraction
import SceneLoop.Proofs.Json.Leading

/-!
# Scanning for the brackets of a value

The last rule tries every stretch from the first opening bracket of a text to a closing one.  At
most one of them is a value, because the reader takes nothing but gaps after the bracket that
completes a value.  So the rule finds what a single pass of the reader finds from the first bracket
on, whatever stands before and after the value or within its texts.

## Main definitions

* `Extraction.IsDocument` : a stretch between two positions that is a value.

## Main results

* `Extraction.leading?_eq_some_iff_isDocument` : one pass stops right after the stretch that is a
  value.
* `Extraction.scan?_eq_map_leading?` : the rule finds what one pass finds.
* `Extraction.scan?_finds_document` : the rule finds the one stretch that is a value.
-/

namespace SceneLoop.Extraction

theorem opens_iff {c : Char} : opens c ↔ Json.IsOpening c := by
  simp [opens, Json.IsOpening]

theorem closes_iff {c : Char} : closes c ↔ Json.IsClosing c := by
  simp [closes, Json.IsClosing]

/-- The stretch of a text from one position to another, both included, ends in a closing bracket
and is a value. -/
structure IsDocument (cs : List Char) (i j : Nat) (v : Json) : Prop where
  closes : ∃ c, cs[j]? = some c ∧ closes c
  parses : Json.parseChars? (cs.extract i (j + 1)) = some v

variable {cs : List Char} {i j : Nat} {v : Json}

/-! ### The first opening bracket -/

theorem dropWhile_eq_drop (hi : cs.findIdx? opens = some i) :
    cs.dropWhile (fun c => !opens c) = cs.drop i := by
  rw [List.dropWhile_eq_drop_findIdx_not]
  simp only [Bool.not_not]
  rw [(List.findIdx?_eq_some_iff_findIdx_eq.1 hi).2]

theorem exists_eq_append (hi : cs.findIdx? opens = some i) :
    ∃ prose c tail, cs = prose ++ c :: tail ∧ prose.length = i ∧ Json.IsOpening c := by
  obtain ⟨hlt, hopens, -⟩ := List.findIdx?_eq_some_iff_getElem.1 hi
  refine ⟨cs.take i, cs[i], cs.drop (i + 1), ?_, List.length_take_of_le (Nat.le_of_lt hlt),
    opens_iff.1 hopens⟩
  rw [← List.drop_eq_getElem_cons hlt, List.take_append_drop]

/-! ### The stretch that is a value -/

theorem extract_append (prose tail : List Char) (c : Char) (k : Nat) :
    (prose ++ c :: tail).extract prose.length (prose.length + 1 + k + 1) =
      c :: tail.take (k + 1) := by
  have hsize : prose.length + 1 + k + 1 - prose.length = k + 1 + 1 := by omega
  rw [List.extract_eq_take_drop, List.drop_left, hsize, List.take_succ_cons]

theorem IsDocument.lt_length (h : IsDocument cs i j v) : j < cs.length := by
  obtain ⟨c, hc, -⟩ := h.closes
  exact (List.getElem?_eq_some_iff.1 hc).1

/-- A stretch from an opening bracket on that is a value ends behind that bracket. -/
theorem IsDocument.exists_eq_add {prose tail : List Char} {c : Char} (hc : Json.IsOpening c)
    (h : IsDocument (prose ++ c :: tail) prose.length j v) : ∃ k, j = prose.length + 1 + k := by
  obtain ⟨⟨d, hd, hcloses⟩, hparse⟩ := h
  rcases Nat.lt_trichotomy j prose.length with hlt | rfl | hlt
  · have hnone : j + 1 - prose.length = 0 := by omega
    rw [List.extract_eq_take_drop, hnone, List.take_zero] at hparse
    cases hparse
  · rw [List.getElem?_append_right (Nat.le_refl _), Nat.sub_self, List.getElem?_cons_zero] at hd
    cases hd
    rcases hc with rfl | rfl <;> cases hcloses
  · exact ⟨j - (prose.length + 1), by omega⟩

theorem isDocument_append_iff {prose tail : List Char} {c : Char} (hc : Json.IsOpening c) :
    IsDocument (prose ++ c :: tail) prose.length j v ↔
      ∃ inner d rest, tail = inner ++ d :: rest ∧ j = prose.length + 1 + inner.length ∧
        Json.IsClosing d ∧ Json.parseChars? (c :: (inner ++ [d])) = some v := by
  have hget (k : Nat) : (prose ++ c :: tail)[prose.length + 1 + k]? = tail[k]? := by
    have hindex : prose.length + 1 + k - prose.length = k + 1 := by omega
    rw [List.getElem?_append_right (by omega), hindex, List.getElem?_cons_succ]
  constructor
  · intro h
    obtain ⟨k, rfl⟩ := h.exists_eq_add hc
    obtain ⟨⟨d, hd, hcloses⟩, hparse⟩ := h
    rw [hget] at hd
    obtain ⟨hlt, rfl⟩ := List.getElem?_eq_some_iff.1 hd
    rw [extract_append, ← List.take_append_getElem hlt] at hparse
    refine ⟨tail.take k, tail[k], tail.drop (k + 1), ?_, ?_, closes_iff.1 hcloses, hparse⟩
    · rw [← List.drop_eq_getElem_cons hlt, List.take_append_drop]
    · rw [List.length_take_of_le (Nat.le_of_lt hlt)]
  · rintro ⟨inner, d, rest, rfl, rfl, hclosing, hparse⟩
    refine ⟨⟨d, ?_, closes_iff.2 hclosing⟩, ?_⟩
    · rw [hget, List.getElem?_append_right (Nat.le_refl _), Nat.sub_self, List.getElem?_cons_zero]
    · have hinner : (inner ++ d :: rest).take (inner.length + 1) = inner ++ [d] := by
        rw [List.take_length_add_append, List.take_succ_cons, List.take_zero]
      rw [extract_append, hinner, hparse]

/-- One pass of the reader stops right after the stretch that is a value. -/
theorem leading?_eq_some_iff_isDocument (hi : cs.findIdx? opens = some i) {rest : List Char} :
    Json.leading? (cs.drop i) = some (v, rest) ↔
      ∃ j, IsDocument cs i j v ∧ rest = cs.drop (j + 1) := by
  obtain ⟨prose, c, tail, rfl, rfl, hc⟩ := exists_eq_append hi
  have hrest (inner : List Char) (d : Char) (rest : List Char) :
      (prose ++ c :: (inner ++ d :: rest)).drop (prose.length + 1 + inner.length + 1) = rest := by
    have hsplit : prose ++ c :: (inner ++ d :: rest) = prose ++ c :: inner ++ [d] ++ rest := by
      simp
    rw [hsplit]
    exact List.drop_left' (by simp; omega)
  rw [List.drop_left, Json.leading?_eq_some_iff hc]
  constructor
  · rintro ⟨inner, d, rfl, hd, hparse⟩
    exact ⟨_, (isDocument_append_iff hc).2 ⟨inner, d, rest, rfl, rfl, hd, hparse⟩,
      (hrest inner d rest).symm⟩
  · rintro ⟨j, hdocument, rfl⟩
    obtain ⟨inner, d, rest, rfl, rfl, hd, hparse⟩ := (isDocument_append_iff hc).1 hdocument
    rw [hrest]
    exact ⟨inner, d, rfl, hd, hparse⟩

/-- At most one stretch from the first opening bracket on is a value. -/
theorem IsDocument.unique (hi : cs.findIdx? opens = some i) {k : Nat} {w : Json}
    (h : IsDocument cs i j v) (h' : IsDocument cs i k w) : j = k := by
  have hv := (leading?_eq_some_iff_isDocument hi).2 ⟨j, h, rfl⟩
  have hw := (leading?_eq_some_iff_isDocument hi).2 ⟨k, h', rfl⟩
  obtain ⟨-, hrest⟩ := Prod.mk.inj (Option.some.inj (hv.symm.trans hw))
  have hlength := congrArg List.length hrest
  rw [List.length_drop, List.length_drop] at hlength
  have hj := h.lt_length
  have hk := h'.lt_length
  omega

/-! ### The rule -/

theorem mem_closedBeginnings {read cs b : List Char} :
    b ∈ closedBeginnings read cs ↔
      ∃ inner c rest, cs = inner ++ c :: rest ∧ closes c ∧ b = read.reverse ++ inner ++ [c] := by
  induction cs generalizing read with
  | nil => simp [closedBeginnings]
  | cons d cs ih =>
    -- The beginning ends in the first character, or it ends in a later one.
    have hlater : (∃ inner c rest, d :: cs = inner ++ c :: rest ∧ closes c ∧
          b = read.reverse ++ inner ++ [c]) ↔
        closes d ∧ b = (d :: read).reverse ∨ b ∈ closedBeginnings (d :: read) cs := by
      rw [ih]
      constructor
      · rintro ⟨_ | ⟨e, inner⟩, c, rest, hcs, hc, rfl⟩ <;> cases hcs
        · exact .inl ⟨hc, by simp⟩
        · exact .inr ⟨inner, c, rest, rfl, hc, by simp⟩
      · rintro (⟨hd, rfl⟩ | ⟨inner, c, rest, rfl, hc, rfl⟩)
        · exact ⟨[], d, cs, rfl, hd, by simp⟩
        · exact ⟨d :: inner, c, rest, rfl, hc, by simp⟩
    rw [hlater, closedBeginnings]
    split
    · next hd => simp [hd]
    · next hd => simp [hd]

theorem scan?_eq_some_iff (hi : cs.findIdx? opens = some i) :
    scan? cs = some v ↔ ∃ rest, Json.leading? (cs.drop i) = some (v, rest) := by
  have hdrop := dropWhile_eq_drop hi
  obtain ⟨prose, c, tail, rfl, rfl, hc⟩ := exists_eq_append hi
  have hskip : closes c = false := by rcases hc with rfl | rfl <;> rfl
  rw [List.drop_left] at hdrop ⊢
  rw [scan?, hdrop, closedBeginnings, hskip]
  have hfound {w : Json}
      (h : (closedBeginnings [c] tail).findSome? Json.parseChars? = some w) :
      ∃ rest, Json.leading? (c :: tail) = some (w, rest) := by
    obtain ⟨b, hb, hparse⟩ := List.exists_of_findSome?_eq_some h
    obtain ⟨inner, d, rest, rfl, hd, rfl⟩ := mem_closedBeginnings.1 hb
    exact ⟨rest, (Json.leading?_eq_some_iff hc).2 ⟨inner, d, rfl, closes_iff.1 hd, hparse⟩⟩
  refine ⟨hfound, fun ⟨rest, hleading⟩ => ?_⟩
  -- Some stretch is a value; the one that is found is then the stretch that one pass reads.
  obtain ⟨inner, d, rfl, hd, hparse⟩ := (Json.leading?_eq_some_iff hc).1 hleading
  have hmem : c :: (inner ++ [d]) ∈ closedBeginnings [c] (inner ++ d :: rest) :=
    mem_closedBeginnings.2 ⟨inner, d, rest, rfl, closes_iff.2 hd, rfl⟩
  have hsome : ((closedBeginnings [c] (inner ++ d :: rest)).findSome? Json.parseChars?).isSome :=
    List.findSome?_isSome_iff.2 ⟨_, hmem, by rw [hparse, Option.isSome_some]⟩
  obtain ⟨w, hw⟩ := Option.isSome_iff_exists.1 hsome
  obtain ⟨rest', hleading'⟩ := hfound hw
  obtain ⟨rfl, -⟩ := Prod.mk.inj (Option.some.inj (hleading.symm.trans hleading'))
  exact hw

/-- The rule finds what one pass of the reader finds from the first opening bracket on. -/
theorem scan?_eq_map_leading? (hi : cs.findIdx? opens = some i) :
    scan? cs = (Json.leading? (cs.drop i)).map Prod.fst := by
  refine Option.ext fun v => ?_
  rw [scan?_eq_some_iff hi, Option.map_eq_some_iff]
  exact ⟨fun ⟨rest, h⟩ => ⟨(v, rest), h, rfl⟩, fun ⟨⟨_, rest⟩, h, hv⟩ => ⟨rest, hv ▸ h⟩⟩

/-- Where the last rule finds a value, some rule does. -/
theorem isSome_findChars? (h : (scan? cs).isSome) : (findChars? cs).isSome := by
  rw [findChars?]
  split
  · rfl
  · rwa [Option.isSome_map]

/-- **The one stretch that is a value.** From the first opening bracket of a text on, at most one
stretch that ends in a closing bracket is a value.  The last rule finds the value of that stretch
and nothing without one, just as a single pass of the reader does that begins at the bracket and
stops behind the stretch, whatever comes before, after and within the stretch.  So a text whose
first opening bracket begins a complete value is never without one. -/
theorem scan?_finds_document (text : String) {i : Nat}
    (hi : text.toList.findIdx? opens = some i) :
    let cs := text.toList
    (∀ j k v w, IsDocument cs i j v → IsDocument cs i k w → j = k) ∧
      (∀ v, scan? cs = some v ↔ ∃ j, IsDocument cs i j v) ∧
      scan? cs = (Json.leading? (cs.drop i)).map Prod.fst ∧
      (∀ v rest, Json.leading? (cs.drop i) = some (v, rest) ↔
        ∃ j, IsDocument cs i j v ∧ rest = cs.drop (j + 1)) ∧
      ((Json.leading? (cs.drop i)).isSome → (find? text).isSome) := by
  intro cs
  refine ⟨fun j k v w h h' => h.unique hi h', fun v => ?_, scan?_eq_map_leading? hi,
    fun v rest => leading?_eq_some_iff_isDocument hi, fun h => isSome_findChars? ?_⟩
  · rw [scan?_eq_some_iff hi]
    constructor
    · rintro ⟨rest, h⟩
      obtain ⟨j, hj, -⟩ := (leading?_eq_some_iff_isDocument hi).1 h
      exact ⟨j, hj⟩
    · rintro ⟨j, hj⟩
      exact ⟨_, (leading?_eq_some_iff_isDocument hi).2 ⟨j, hj, rfl⟩⟩
  · rwa [scan?_eq_map_leading? hi, Option.isSome_map]

/-- Prose around a value whose own texts hold closing brackets and an escape. -/
def bracketedProse : String :=
  "α → \x7b\"a\": [1, \"\x7d\\\"]\"]\x7d ✓ ]"

/-- The value within that prose. -/
def bracketedValue : Json :=
  .object [("a", .array [.number (.integer 1), .text "\x7d\"]"])]

theorem isDocument_bracketedProse : IsDocument bracketedProse.toList 4 21 bracketedValue :=
  ⟨⟨'\x7d', by cbv, rfl⟩, by cbv⟩

/-- The value is found between its own brackets, for all the brackets within it and behind. -/
theorem scan?_finds_bracketedProse :
    bracketedProse.toList.findIdx? opens = some 4 ∧
      IsDocument bracketedProse.toList 4 21 bracketedValue ∧
      (∀ k w, IsDocument bracketedProse.toList 4 k w → 21 = k) ∧
      scan? bracketedProse.toList = some bracketedValue ∧ (find? bracketedProse).isSome := by
  have hi : bracketedProse.toList.findIdx? opens = some 4 := by cbv
  have hv := isDocument_bracketedProse
  obtain ⟨hunique, hscan, -, hleading, hfind⟩ := scan?_finds_document bracketedProse hi
  have hsome : (Json.leading? (bracketedProse.toList.drop 4)).isSome := by
    rw [(hleading bracketedValue _).2 ⟨21, hv, rfl⟩, Option.isSome_some]
  exact ⟨hi, hv, fun k w h => hunique 21 k _ w hv h, (hscan _).2 ⟨21, hv⟩, hfind hsome⟩

end SceneLoop.Extraction
