import Mathlib
import SceneLoop.Payload.Extraction

/-!
# Blocks between fences

An answer often wraps its payload in prose and puts it between two fences of three backticks, the
first of which may name the format.  The rule for fences is lazy: it stops at the first closing
brace with blanks and a fence after it.  A block that holds no backtick is nevertheless found
whole, because an inner closing brace is followed by more of the block, whose last character is
neither blank nor a backtick.

## Main definitions

* `FencedText` : prose, a fence with a tag, blanks, a block in braces, blanks, a fence, and more.

## Main results

* `Extraction.upTo?_closesHere` : the lazy rule stops at the last brace of a block.
* `Extraction.fenced?_append_of_notMem` : prose without a backtick is passed over.
* `Extraction.fenced?_eq_none` : the named rule finds nothing behind the second fence, unless
  another fence follows.
* `FencedText.find?_toText` : the block is found whole, by the rule that its first fence asks for.
-/

namespace SceneLoop

namespace Extraction

/-! ### The end of a block -/

theorem stripStart?_fence_of_ne {c : Char} (hc : c ≠ '\x60') (cs : List Char) :
    Text.stripStart? fence (c :: cs) = none := by
  simp [fence, Text.stripStart?, hc.symm]

theorem closesHere_of_ne {c : Char} (hblank : Text.isBlank c = false) (hc : c ≠ '\x60')
    (cs : List Char) : closesHere (c :: cs) = false := by
  simp [closesHere, hblank, stripStart?_fence_of_ne hc]

/-- Blanks and a fence close a block. -/
theorem closesHere_append {trail : List Char} (htrail : ∀ c ∈ trail, Text.isBlank c)
    (after : List Char) : closesHere (trail ++ (fence ++ after)) = true := by
  have hfence : (fence ++ after).dropWhile Text.isBlank = fence ++ after := by
    have hb : Text.isBlank '\x60' = false := by decide
    simp [fence, hb]
  have hstrip : Text.stripStart? fence (fence ++ after) = some after :=
    Text.stripStart?_eq_some_iff.2 rfl
  rw [closesHere, List.dropWhile_append_of_pos htrail, hfence, hstrip]
  rfl

/-- Nothing closes a block as long as another closing brace comes before the next backtick. -/
theorem closesHere_eq_false {inner : List Char} (hinner : '\x60' ∉ inner) (rest : List Char) :
    closesHere (inner ++ '\x7d' :: rest) = false := by
  induction inner with
  | nil => exact closesHere_of_ne (by decide) (by decide) rest
  | cons c inner ih =>
    rw [List.mem_cons, not_or] at hinner
    cases hb : Text.isBlank c with
    | false => exact closesHere_of_ne hb (Ne.symm hinner.1) _
    | true =>
      have hskip : closesHere (c :: inner ++ '\x7d' :: rest) =
          closesHere (inner ++ '\x7d' :: rest) := by
        simp [closesHere, hb]
      rw [hskip]
      exact ih hinner.2

/-- The lazy rule stops at the last brace of a block without backticks, although braces may occur
before it. -/
theorem upTo?_closesHere {inner trail : List Char} (hinner : '\x60' ∉ inner)
    (htrail : ∀ c ∈ trail, Text.isBlank c) (after : List Char) :
    upTo? '\x7d' closesHere (inner ++ '\x7d' :: (trail ++ (fence ++ after))) =
      some (inner ++ ['\x7d']) := by
  induction inner with
  | nil => simp [upTo?, closesHere_append htrail]
  | cons c inner ih =>
    rw [List.mem_cons, not_or] at hinner
    have hopen := closesHere_eq_false hinner.2 (trail ++ (fence ++ after))
    rw [List.cons_append, upTo?, hopen, ih hinner.2]
    simp

/-- The block after a fence is found whole. -/
theorem block?_eq_some {lead inner trail : List Char} (hlead : ∀ c ∈ lead, Text.isBlank c)
    (hinner : '\x60' ∉ inner) (htrail : ∀ c ∈ trail, Text.isBlank c) (after : List Char) :
    block? (lead ++ '\x7b' :: (inner ++ '\x7d' :: (trail ++ (fence ++ after)))) =
      some ('\x7b' :: (inner ++ ['\x7d'])) := by
  have hb : Text.isBlank '\x7b' = false := by decide
  rw [block?, List.dropWhile_append_of_pos hlead, List.dropWhile_cons_of_neg (by simp [hb])]
  simp only [upTo?_closesHere hinner htrail, Option.map_some]

/-! ### Where no block begins -/

theorem afterFence?_of_ne {c : Char} (hc : c ≠ '\x60') (letters cs : List Char) :
    afterFence? letters (c :: cs) = none := by
  simp [afterFence?, stripStart?_fence_of_ne hc]

theorem fenced?_cons_of_none {letters : List Char} {c : Char} {cs : List Char}
    (h : afterFence? letters (c :: cs) = none) :
    fenced? letters (c :: cs) = fenced? letters cs := by
  simp [fenced?, h]

/-- Prose without a backtick is passed over. -/
theorem fenced?_append_of_notMem (letters : List Char) {before : List Char}
    (hbefore : '\x60' ∉ before) (rest : List Char) :
    fenced? letters (before ++ rest) = fenced? letters rest := by
  induction before with
  | nil => rfl
  | cons c before ih =>
    rw [List.mem_cons, not_or] at hbefore
    rw [List.cons_append, fenced?_cons_of_none (afterFence?_of_ne (Ne.symm hbefore.1) _ _)]
    exact ih hbefore.2

/-- A text without a fence closes no block. -/
theorem upTo?_closesHere_eq_none {cs : List Char} (h : ¬fence <:+: cs) :
    upTo? '\x7d' closesHere cs = none := by
  induction cs with
  | nil => rfl
  | cons c cs ih =>
    have hcs : ¬fence <:+: cs := fun hi => h (List.infix_cons hi)
    have hclose : closesHere cs = false := by
      rw [closesHere, Option.isSome_eq_false_iff, Option.isNone_iff_eq_none,
        Option.eq_none_iff_forall_ne_some]
      intro rest hrest
      have hfence : fence <:+: cs.dropWhile Text.isBlank :=
        ⟨[], rest, by simpa using (Text.stripStart?_eq_some_iff.1 hrest).symm⟩
      exact hcs (hfence.trans (List.dropWhile_suffix _).isInfix)
    rw [upTo?, hclose, ih hcs]
    simp

theorem block?_eq_none {cs : List Char} (h : ¬fence <:+: cs) : block? cs = none := by
  unfold block?
  split
  · next rest hrest =>
    have hsuffix : rest <:+ cs :=
      (List.suffix_cons _ rest).trans (hrest ▸ List.dropWhile_suffix _)
    rw [upTo?_closesHere_eq_none fun hi => h (hi.trans hsuffix.isInfix)]
    rfl
  · rfl

theorem suffix_of_afterLetters? {letters cs rest : List Char}
    (h : afterLetters? letters cs = some rest) : rest <:+ cs := by
  induction letters generalizing cs with
  | nil =>
    obtain rfl : cs = rest := by simpa [afterLetters?] using h
    exact List.suffix_refl _
  | cons l letters ih =>
    cases cs with
    | nil => simp [afterLetters?] at h
    | cons c cs =>
      simp only [afterLetters?] at h
      split at h
      · exact (ih h).trans (List.suffix_cons c cs)
      · cases h

/-- There is no block where no fence is followed by another one. -/
theorem fenced?_eq_none (letters : List Char) {cs : List Char}
    (h : ∀ rest, fence ++ rest <:+ cs → ¬fence <:+: rest) : fenced? letters cs = none := by
  induction cs with
  | nil => rfl
  | cons c cs ih =>
    have hhere : (afterFence? letters (c :: cs)).bind block? = none := by
      rw [Option.bind_eq_none_iff]
      intro rest hrest
      rw [afterFence?, Option.bind_eq_some_iff] at hrest
      obtain ⟨tagged, htagged, hrest⟩ := hrest
      have hcs : c :: cs = fence ++ tagged := Text.stripStart?_eq_some_iff.1 htagged
      have hopen : ¬fence <:+: tagged := h tagged (hcs ▸ List.suffix_refl _)
      exact block?_eq_none fun hi =>
        hopen (hi.trans (suffix_of_afterLetters? hrest).isInfix)
    rw [fenced?, hhere]
    exact ih fun rest hrest => h rest (hrest.trans (List.suffix_cons c cs))

/-- Behind a fence that no other one follows there is no block. -/
theorem fenced?_fence_append_eq_none (letters : List Char) {after : List Char}
    (hafter : ¬fence <:+: after) : fenced? letters (fence ++ after) = none := by
  refine fenced?_eq_none letters fun rest hrest hi => hafter (hi.trans ?_)
  have hlength : rest.length ≤ after.length := by
    have := hrest.length_le
    simp only [List.length_append] at this
    omega
  exact (List.suffix_of_suffix_length_le ((List.suffix_append fence rest).trans hrest)
    (List.suffix_append fence after) hlength).isInfix

/-! ### The first fence -/

/-- The letters that a fence names its format by are read in any case. -/
theorem afterLetters?_append {letters tag : List Char} (htag : tag.map Char.toLower = letters)
    (rest : List Char) : afterLetters? letters (tag ++ rest) = some rest := by
  induction tag generalizing letters with
  | nil =>
    obtain rfl : [] = letters := htag
    rfl
  | cons c tag ih =>
    obtain rfl : c.toLower :: tag.map Char.toLower = letters := htag
    have hc : matchesLetter c.toLower c = true := by simp [matchesLetter]
    rw [List.cons_append, afterLetters?, if_pos hc]
    exact ih rfl

theorem fenced?_of_block {letters cs rest block : List Char}
    (hfence : afterFence? letters cs = some rest) (hblock : block? rest = some block) :
    fenced? letters cs = some block := by
  cases cs with
  | nil => simp [afterFence?, fence, Text.stripStart?] at hfence
  | cons c cs => rw [fenced?, hfence, Option.bind_some, hblock]

/-- The block after the first fence is the candidate, if the fence has the letters of the rule. -/
theorem fenced?_eq_some {letters before tag lead inner trail : List Char}
    (hbefore : '\x60' ∉ before) (htag : tag.map Char.toLower = letters)
    (hlead : ∀ c ∈ lead, Text.isBlank c) (hinner : '\x60' ∉ inner)
    (htrail : ∀ c ∈ trail, Text.isBlank c) (after : List Char) :
    fenced? letters (before ++ (fence ++ (tag ++ (lead ++ '\x7b' ::
      (inner ++ '\x7d' :: (trail ++ (fence ++ after))))))) =
      some ('\x7b' :: (inner ++ ['\x7d'])) := by
  have hfence : afterFence? letters (fence ++ (tag ++ (lead ++ '\x7b' ::
      (inner ++ '\x7d' :: (trail ++ (fence ++ after)))))) =
      some (lead ++ '\x7b' :: (inner ++ '\x7d' :: (trail ++ (fence ++ after)))) := by
    rw [afterFence?, Text.stripStart?_eq_some_iff.2 rfl]
    exact afterLetters?_append htag _
  rw [fenced?_append_of_notMem letters hbefore]
  exact fenced?_of_block hfence (block?_eq_some hlead hinner htrail after)

/-- A fence that is not followed by the letters of the rule is passed over. -/
theorem fenced?_fence_cons {l c : Char} {letters : List Char} (hl : matchesLetter l c = false)
    (hc : c ≠ '\x60') (rest : List Char) :
    fenced? (l :: letters) (fence ++ c :: rest) = fenced? (l :: letters) (c :: rest) := by
  simp [fence, fenced?, afterFence?, Text.stripStart?, afterLetters?, hl, hc.symm]

theorem isBlank_eq_false_of_toLower {c : Char} (h : c.toLower = 'j') : Text.isBlank c = false := by
  unfold Char.toLower at h
  split at h
  · obtain rfl : c = 'J' := by
      have hval := congrArg Char.val h
      apply Char.ext
      simp only at hval ⊢
      grind
    decide
  · subst h
    decide

/-- The rule for the named format finds nothing between fences without a name. -/
theorem fenced?_named_eq_none {before lead inner trail after : List Char} (letters : List Char)
    (hbefore : '\x60' ∉ before) (hlead : ∀ c ∈ lead, Text.isBlank c) (hinner : '\x60' ∉ inner)
    (htrail : ∀ c ∈ trail, Text.isBlank c) (hafter : ¬fence <:+: after) :
    fenced? ('j' :: letters) (before ++ (fence ++ (lead ++ '\x7b' ::
      (inner ++ '\x7d' :: (trail ++ (fence ++ after)))))) = none := by
  have hblank : ∀ {cs : List Char}, (∀ c ∈ cs, Text.isBlank c) → '\x60' ∉ cs := fun h hmem =>
    absurd (h _ hmem) (by decide)
  obtain ⟨c, between, hbetween, hj⟩ : ∃ c between,
      c :: between = lead ++ '\x7b' :: (inner ++ '\x7d' :: trail) ∧
        matchesLetter 'j' c = false := by
    cases lead with
    | nil => exact ⟨_, _, rfl, by decide⟩
    | cons c lead =>
      refine ⟨c, _, rfl, ?_⟩
      have hc := hlead c List.mem_cons_self
      cases hj : matchesLetter 'j' c with
      | false => rfl
      | true =>
        have hlow : c.toLower = 'j' := by simpa [matchesLetter] using hj
        simp [isBlank_eq_false_of_toLower hlow] at hc
  have hmem : '\x60' ∉ c :: between := by
    simp [hbetween, hblank hlead, hinner, hblank htrail]
  have htext : lead ++ '\x7b' :: (inner ++ '\x7d' :: (trail ++ (fence ++ after))) =
      c :: between ++ (fence ++ after) := by
    simp [hbetween]
  rw [fenced?_append_of_notMem _ hbefore, htext, List.cons_append,
    fenced?_fence_cons hj fun h => hmem (h ▸ List.mem_cons_self), ← List.cons_append,
    fenced?_append_of_notMem _ hmem]
  exact fenced?_fence_append_eq_none _ hafter

end Extraction

/-- Prose around one block between fences. -/
structure FencedText where
  /-- The prose before the first fence. -/
  before : String
  /-- The name of the format, right after the first fence. -/
  tag : String
  /-- Blanks before the block. -/
  lead : String
  /-- What stands between the braces of the block. -/
  inner : String
  /-- Blanks after the block. -/
  trail : String
  /-- What follows the second fence. -/
  after : String
  /-- No fence is begun before the first one. -/
  notMem_before : '\x60' ∉ before.toList
  /-- Only blanks stand before the block. -/
  isBlank_lead : ∀ c ∈ lead.toList, Text.isBlank c
  /-- No fence is begun in the block. -/
  notMem_inner : '\x60' ∉ inner.toList
  /-- Only blanks stand after the block. -/
  isBlank_trail : ∀ c ∈ trail.toList, Text.isBlank c

namespace FencedText

/-- The block in its braces. -/
def block (t : FencedText) : String :=
  "\x7b" ++ t.inner ++ "\x7d"

/-- The whole text. -/
def toText (t : FencedText) : String :=
  t.before ++ "\x60\x60\x60" ++ t.tag ++ t.lead ++ t.block ++ t.trail ++ "\x60\x60\x60" ++ t.after

open Extraction

theorem toList_block (t : FencedText) :
    t.block.toList = '\x7b' :: (t.inner.toList ++ ['\x7d']) := by
  simp [block]

theorem toList_toText (t : FencedText) :
    t.toText.toList = t.before.toList ++ (fence ++ (t.tag.toList ++ (t.lead.toList ++ '\x7b' ::
      (t.inner.toList ++ '\x7d' :: (t.trail.toList ++ (fence ++ t.after.toList)))))) := by
  simp [toText, block, fence]

/-- The candidate of a fence rule whose letters the tag consists of is the block. -/
theorem fenced?_toText (t : FencedText) {letters : List Char}
    (htag : t.tag.toList.map Char.toLower = letters) :
    fenced? letters t.toText.toList = some t.block.toList := by
  rw [toList_toText, toList_block]
  exact fenced?_eq_some t.notMem_before htag t.isBlank_lead t.notMem_inner t.isBlank_trail _

/-- **A block between fences is found whole.** Let the first fence of a text be followed by blanks
and a block in braces without a backtick, and the block by blanks and a second fence, and let the
text as a whole be no value.  If the block is a value, then that value is found, however deep it is
nested and whatever braces its texts hold: by the rule for named fences if the first fence names the
format, in any case, and by the rule for all fences if it names nothing and no third fence follows.
-/
theorem find?_toText (t : FencedText) {v : Json} (hv : Json.parse? t.block = some v)
    (hwhole : Json.parse? t.toText = none) :
    (Text.lower t.tag = "json" → find? t.toText = some (v, .fencedJson)) ∧
      (t.tag = "" → ¬fence <:+: t.after.toList → find? t.toText = some (v, .fenced)) := by
  rw [Json.parse?] at hv hwhole
  refine ⟨fun htag => ?_, fun htag hafter => ?_⟩
  · have hletters : t.tag.toList.map Char.toLower = ['j', 's', 'o', 'n'] := by
      simpa [Text.lower] using congrArg String.toList htag
    simp [find?, findChars?, singleCandidate, attempt?, candidate?, hwhole,
      t.fenced?_toText hletters, hv]
  · have hletters : t.tag.toList.map Char.toLower = [] := by simp [htag]
    have hnamed : fenced? ['j', 's', 'o', 'n'] t.toText.toList = none := by
      rw [toList_toText, htag]
      exact fenced?_named_eq_none _ t.notMem_before t.isBlank_lead t.notMem_inner
        t.isBlank_trail hafter
    simp [find?, findChars?, singleCandidate, attempt?, candidate?, hwhole, hnamed,
      t.fenced?_toText hletters, hv]

/-- A block inside a block, with braces in its text. -/
def nested (tag after : String) : FencedText where
  before := "Here: "
  tag := tag
  lead := "\n"
  inner := "\"a\":\x7b\"b\":[\"\x7d \x7b\"]\x7d"
  trail := " \n"
  after := after
  notMem_before := by simp
  isBlank_lead := by simp [Text.isBlank, Text.inRanges, Text.blankRanges]
  notMem_inner := by simp
  isBlank_trail := by simp [Text.isBlank, Text.inRanges, Text.blankRanges]

theorem find?_toText_nested :
    find? (nested "JSON" "\x60\x60\x60 more").toText =
        some (.object [("a", .object [("b", .array [.text "\x7d \x7b"])])], .fencedJson) ∧
      find? (nested "" " more").toText =
        some (.object [("a", .object [("b", .array [.text "\x7d \x7b"])])], .fenced) :=
  ⟨(find?_toText (nested "JSON" "\x60\x60\x60 more") (by cbv) (by cbv)).1 (by cbv),
    (find?_toText (nested "" " more") (by cbv) (by cbv)).2 rfl (by decide)⟩

end FencedText

end SceneLoop
