import Mathlib
import SceneLoop.Proofs.Payload.Fences

/-!
# The candidates of the rules

A rule for fences or brackets says what a match looks like, and of all matches in a text it takes
the leftmost and then the shortest one.  So it has at most one candidate, which is tried and never
replaced by another match.  A value that is the whole text comes before all rules, the rules come in
a fixed order, and only where all of them fail the text is scanned.

## Main definitions

* `Extraction.OpensBlock`, `Extraction.ClosesBlock` : how a block between fences begins and ends.
* `Extraction.IsMatch` : what a rule matches at the beginning of a text.
* `Extraction.IsCandidate` : the leftmost and then shortest match.
* `Extraction.Finds` : what is found in a text, and where.

## Main results

* `Extraction.fenced?_eq_some_iff`, `Extraction.bare?_eq_some_iff` : the rules find the leftmost and
  then shortest match.
* `Extraction.find?_ordered` : the order in which candidates are tried.
-/

namespace SceneLoop

namespace Extraction

/-! ### Matches -/

/-- A fence with the given letters, in any case, and blanks begin a text; an opening brace and some
rest follow. -/
def OpensBlock (letters cs rest : List Char) : Prop :=
  ∃ tag lead, cs = fence ++ (tag ++ (lead ++ '\x7b' :: rest)) ∧
    List.Forall₂ (fun l c => matchesLetter l c) letters tag ∧ ∀ c ∈ lead, Text.isBlank c

/-- Blanks and a fence begin a text. -/
def ClosesBlock (cs : List Char) : Prop :=
  ∃ trail after, cs = trail ++ (fence ++ after) ∧ ∀ c ∈ trail, Text.isBlank c

/-- A block between fences at the beginning of a text, the first of which has the given letters. -/
def IsBlockMatch (letters cs block : List Char) : Prop :=
  ∃ inner rest, OpensBlock letters cs (inner ++ '\x7d' :: rest) ∧ ClosesBlock rest ∧
    block = '\x7b' :: (inner ++ ['\x7d'])

/-- A stretch between two characters at the beginning of a text. -/
def IsBareMatch (first last : Char) (cs stretch : List Char) : Prop :=
  ∃ inner rest, cs = first :: (inner ++ last :: rest) ∧ stretch = first :: (inner ++ [last])

/-- What a rule matches at the beginning of a text. -/
def IsMatch : Strategy → List Char → List Char → Prop
  | .fencedJson => IsBlockMatch ['j', 's', 'o', 'n']
  | .fenced => IsBlockMatch []
  | .bareObject => IsBareMatch '\x7b' '\x7d'
  | .bareArray => IsBareMatch '[' ']'
  | .direct | .scan => fun _ _ => False

/-- Of all matches in a text, the stretch of a leftmost one, and of these the shortest. -/
def IsCandidate (Match : List Char → List Char → Prop) (cs stretch : List Char) : Prop :=
  ∃ before rest, cs = before ++ rest ∧ Match rest stretch ∧
    (∀ before' rest' stretch', cs = before' ++ rest' → Match rest' stretch' →
      before.length ≤ before'.length) ∧
    ∀ stretch', Match rest stretch' → stretch.length ≤ stretch'.length

variable {Match : List Char → List Char → Prop} {letters cs rest stretch : List Char}
  {first last c : Char}

/-- Where the text begins with a match, the candidate is the shortest one there. -/
theorem isCandidate_iff_of_match (h : ∃ stretch, Match cs stretch) :
    IsCandidate Match cs stretch ↔
      Match cs stretch ∧ ∀ stretch', Match cs stretch' → stretch.length ≤ stretch'.length := by
  constructor
  · rintro ⟨before, rest, rfl, hmatch, hleft, hshort⟩
    obtain ⟨stretch', h⟩ := h
    obtain rfl := List.length_eq_zero_iff.1 (Nat.le_zero.1 (hleft [] _ stretch' rfl h))
    exact ⟨hmatch, hshort⟩
  · rintro ⟨hmatch, hshort⟩
    exact ⟨[], cs, rfl, hmatch, fun _ _ _ _ _ => Nat.zero_le _, hshort⟩

/-- Where the text does not begin with a match, its first character does not count. -/
theorem isCandidate_cons_iff (h : ∀ stretch, ¬Match (c :: cs) stretch) :
    IsCandidate Match (c :: cs) stretch ↔ IsCandidate Match cs stretch := by
  constructor
  · rintro ⟨_ | ⟨_, before⟩, rest, heq, hmatch, hleft, hshort⟩ <;> cases heq
    · exact absurd hmatch (h stretch)
    · refine ⟨before, rest, rfl, hmatch, fun before' rest' stretch' heq hmatch' => ?_, hshort⟩
      exact Nat.le_of_succ_le_succ (hleft (c :: before') rest' stretch' (by rw [heq]; rfl) hmatch')
  · rintro ⟨before, rest, hcs, hmatch, hleft, hshort⟩
    refine ⟨c :: before, rest, by rw [hcs]; rfl, hmatch, ?_, hshort⟩
    rintro (_ | ⟨_, before'⟩) rest' stretch' heq hmatch'
    · exact absurd (heq ▸ hmatch') (h stretch')
    · exact Nat.succ_le_succ (hleft before' rest' stretch' (List.cons.inj heq).2 hmatch')

theorem not_isCandidate_nil (h : ∀ stretch, ¬Match [] stretch) : ¬IsCandidate Match [] stretch := by
  rintro ⟨before, rest, heq, hmatch, -⟩
  obtain ⟨-, rfl⟩ := List.append_eq_nil_iff.1 heq.symm
  exact h stretch hmatch

theorem exists_shortest (h : ∃ stretch, Match cs stretch) :
    ∃ stretch, Match cs stretch ∧
      ∀ stretch', Match cs stretch' → stretch.length ≤ stretch'.length := by
  obtain ⟨stretch, hmatch, hmin⟩ := (measure List.length).wf.has_min {s | Match cs s} h
  exact ⟨stretch, hmatch, fun stretch' h' => not_lt.1 (hmin stretch' h')⟩

/-! ### The shortest stretch up to a character -/

/-- The shortest beginning is taken that ends in the character and is followed by what is
accepted. -/
theorem upTo?_eq_some_iff {follows : List Char → Bool} :
    upTo? last follows cs = some stretch ↔
      ∃ inner rest, cs = inner ++ last :: rest ∧ follows rest ∧ stretch = inner ++ [last] ∧
        ∀ inner' rest', cs = inner' ++ last :: rest' → follows rest' →
          inner.length ≤ inner'.length := by
  induction cs generalizing stretch with
  | nil => simp [upTo?]
  | cons c cs ih =>
    rw [upTo?]
    split
    · next h =>
      simp only [Bool.and_eq_true, decide_eq_true_eq] at h
      obtain ⟨rfl, hfollows⟩ := h
      constructor
      · intro heq
        cases heq
        exact ⟨[], cs, rfl, hfollows, rfl, fun _ _ _ _ => Nat.zero_le _⟩
      · rintro ⟨inner, rest, heq, -, rfl, hshort⟩
        obtain rfl := List.length_eq_zero_iff.1 (Nat.le_zero.1 (hshort [] cs rfl hfollows))
        rfl
    · next h =>
      simp only [Bool.and_eq_true, decide_eq_true_eq, not_and] at h
      simp only [Option.map_eq_some_iff, ih]
      constructor
      · rintro ⟨_, ⟨inner, rest, hcs, hfollows, rfl, hshort⟩, rfl⟩
        refine ⟨c :: inner, rest, by rw [hcs]; rfl, hfollows, rfl, ?_⟩
        rintro (_ | ⟨_, inner'⟩) rest' heq hfollows'
        · obtain ⟨rfl, rfl⟩ := List.cons.inj heq
          exact absurd hfollows' (h rfl)
        · exact Nat.succ_le_succ (hshort inner' rest' (List.cons.inj heq).2 hfollows')
      · rintro ⟨_ | ⟨_, inner⟩, rest, heq, hfollows, rfl, hshort⟩ <;> cases heq
        · exact absurd hfollows (h rfl)
        · refine ⟨_, ⟨inner, rest, rfl, hfollows, rfl, fun inner' rest' heq hfollows' => ?_⟩, rfl⟩
          exact Nat.le_of_succ_le_succ (hshort (c :: inner') rest' (by rw [heq]; rfl) hfollows')

/-! ### Blocks between fences -/

theorem afterLetters?_eq_some_iff :
    afterLetters? letters cs = some rest ↔
      ∃ tag, cs = tag ++ rest ∧ List.Forall₂ (fun l c => matchesLetter l c) letters tag := by
  induction letters generalizing cs with
  | nil => simp [afterLetters?]
  | cons l letters ih =>
    cases cs with
    | nil => simp [afterLetters?, List.forall₂_cons_left_iff]
    | cons c cs =>
      rw [afterLetters?]
      split
      · next h =>
        rw [ih]
        constructor
        · rintro ⟨tag, rfl, htag⟩
          exact ⟨c :: tag, rfl, .cons h htag⟩
        · rintro ⟨_, heq, htag⟩
          cases htag with
          | cons _ htag => exact ⟨_, (List.cons.inj heq).2, htag⟩
      · next h =>
        refine iff_of_false (Option.some_ne_none rest).symm ?_
        rintro ⟨_, heq, htag⟩
        cases htag with
        | cons hc _ =>
          obtain ⟨rfl, -⟩ := List.cons.inj heq
          exact h hc

theorem afterFence?_eq_some_iff :
    afterFence? letters cs = some rest ↔ ∃ tag, cs = fence ++ (tag ++ rest) ∧
      List.Forall₂ (fun l c => matchesLetter l c) letters tag := by
  simp only [afterFence?, Option.bind_eq_some_iff, Text.stripStart?_eq_some_iff,
    afterLetters?_eq_some_iff]
  constructor
  · rintro ⟨_, rfl, tag, rfl, htag⟩
    exact ⟨tag, rfl, htag⟩
  · rintro ⟨tag, rfl, htag⟩
    exact ⟨_, rfl, tag, rfl, htag⟩

/-- What is left of a text without the blanks in front of it. -/
theorem dropWhile_isBlank_eq_cons_iff (hc : Text.isBlank c = false) :
    cs.dropWhile Text.isBlank = c :: rest ↔
      ∃ lead, cs = lead ++ c :: rest ∧ ∀ c ∈ lead, Text.isBlank c := by
  constructor
  · intro h
    refine ⟨cs.takeWhile Text.isBlank, ?_, fun _ => List.mem_takeWhile_imp⟩
    rw [← h, List.takeWhile_append_dropWhile]
  · rintro ⟨lead, rfl, hlead⟩
    rw [List.dropWhile_append_of_pos hlead, List.dropWhile_cons_of_neg (by simp [hc])]

theorem opensBlock_iff :
    OpensBlock letters cs rest ↔ ∃ tagged, afterFence? letters cs = some tagged ∧
      tagged.dropWhile Text.isBlank = '\x7b' :: rest := by
  simp only [afterFence?_eq_some_iff, dropWhile_isBlank_eq_cons_iff (c := '\x7b') (by decide)]
  constructor
  · rintro ⟨tag, lead, rfl, htag, hlead⟩
    exact ⟨_, ⟨tag, rfl, htag⟩, lead, rfl, hlead⟩
  · rintro ⟨_, ⟨tag, rfl, htag⟩, lead, rfl, hlead⟩
    exact ⟨tag, lead, rfl, htag, hlead⟩

/-- A block begins at one place only. -/
theorem OpensBlock.unique {rest' : List Char} (h : OpensBlock letters cs rest)
    (h' : OpensBlock letters cs rest') : rest = rest' := by
  obtain ⟨tagged, htagged, hrest⟩ := opensBlock_iff.1 h
  obtain ⟨tagged', htagged', hrest'⟩ := opensBlock_iff.1 h'
  obtain rfl := Option.some_inj.1 (htagged.symm.trans htagged')
  exact (List.cons.inj (hrest.symm.trans hrest')).2

theorem closesHere_iff : closesHere cs ↔ ClosesBlock cs := by
  constructor
  · intro h
    obtain ⟨after, hafter⟩ := Option.isSome_iff_exists.1 h
    refine ⟨cs.takeWhile Text.isBlank, after, ?_, fun _ => List.mem_takeWhile_imp⟩
    rw [← Text.stripStart?_eq_some_iff.1 hafter, List.takeWhile_append_dropWhile]
  · rintro ⟨trail, after, rfl, htrail⟩
    exact closesHere_append htrail after

theorem bind_block?_eq_some_iff {block : List Char} :
    (afterFence? letters cs).bind block? = some block ↔ ∃ rest stretch,
      OpensBlock letters cs rest ∧ upTo? '\x7d' closesHere rest = some stretch ∧
        block = '\x7b' :: stretch := by
  simp only [opensBlock_iff, Option.bind_eq_some_iff]
  constructor
  · rintro ⟨tagged, htagged, hblock⟩
    unfold block? at hblock
    split at hblock
    · next rest hrest =>
      obtain ⟨stretch, hstretch, rfl⟩ := Option.map_eq_some_iff.1 hblock
      exact ⟨rest, stretch, ⟨tagged, htagged, hrest⟩, hstretch, rfl⟩
    · cases hblock
  · rintro ⟨rest, stretch, ⟨tagged, htagged, hrest⟩, hstretch, rfl⟩
    exact ⟨tagged, htagged, by simp only [block?, hrest, hstretch, Option.map_some]⟩

/-- The block right after a fence is the shortest match there. -/
theorem bind_block?_eq_some_iff_shortest {block : List Char} :
    (afterFence? letters cs).bind block? = some block ↔ IsBlockMatch letters cs block ∧
      ∀ block', IsBlockMatch letters cs block' → block.length ≤ block'.length := by
  simp only [bind_block?_eq_some_iff, upTo?_eq_some_iff, closesHere_iff]
  constructor
  · rintro ⟨_, _, hopens, ⟨inner, rest, rfl, hcloses, rfl, hshort⟩, rfl⟩
    refine ⟨⟨inner, rest, hopens, hcloses, rfl⟩, ?_⟩
    rintro _ ⟨inner', rest', hopens', hcloses', rfl⟩
    simpa using hshort inner' rest' (hopens.unique hopens') hcloses'
  · rintro ⟨⟨inner, rest, hopens, hcloses, rfl⟩, hshort⟩
    refine ⟨_, _, hopens, ⟨inner, rest, rfl, hcloses, rfl, fun inner' rest' heq hcloses' => ?_⟩,
      rfl⟩
    simpa using hshort _ ⟨inner', rest', heq ▸ hopens, hcloses', rfl⟩

/-- The candidate of a rule for fences is the leftmost and then shortest match. -/
theorem fenced?_eq_some_iff :
    fenced? letters cs = some stretch ↔ IsCandidate (IsBlockMatch letters) cs stretch := by
  induction cs with
  | nil =>
    refine iff_of_false nofun (not_isCandidate_nil ?_)
    rintro _ ⟨_, _, ⟨_, _, heq, -⟩, -⟩
    cases heq
  | cons c cs ih =>
    rw [fenced?]
    by_cases hmatch : ∃ block, IsBlockMatch letters (c :: cs) block
    · obtain ⟨block, hblock⟩ := exists_shortest hmatch
      rw [isCandidate_iff_of_match hmatch, ← bind_block?_eq_some_iff_shortest,
        bind_block?_eq_some_iff_shortest.2 hblock]
    · have hnone : (afterFence? letters (c :: cs)).bind block? = none := by
        refine Option.eq_none_iff_forall_ne_some.2 fun block hblock => hmatch ?_
        exact ⟨block, (bind_block?_eq_some_iff_shortest.1 hblock).1⟩
      rw [hnone, isCandidate_cons_iff (not_exists.1 hmatch)]
      exact ih

/-! ### Stretches between brackets -/

theorem upTo?_true_eq_some_iff :
    (upTo? last (fun _ => true) cs).map (first :: ·) = some stretch ↔
      IsBareMatch first last (first :: cs) stretch ∧
        ∀ stretch', IsBareMatch first last (first :: cs) stretch' →
          stretch.length ≤ stretch'.length := by
  simp only [Option.map_eq_some_iff, upTo?_eq_some_iff]
  constructor
  · rintro ⟨_, ⟨inner, rest, rfl, -, rfl, hshort⟩, rfl⟩
    refine ⟨⟨inner, rest, rfl, rfl⟩, ?_⟩
    rintro _ ⟨inner', rest', heq, rfl⟩
    simpa using hshort inner' rest' (List.cons.inj heq).2 trivial
  · rintro ⟨⟨inner, rest, heq, rfl⟩, hshort⟩
    obtain rfl := (List.cons.inj heq).2
    refine ⟨_, ⟨inner, rest, rfl, trivial, rfl, fun inner' rest' heq' _ => ?_⟩, rfl⟩
    simpa using hshort _ ⟨inner', rest', by rw [heq'], rfl⟩

/-- Without a closing character behind its first one, a text has no candidate. -/
theorem not_isCandidate_of_notMem (h : last ∉ cs) :
    ¬IsCandidate (IsBareMatch first last) (c :: cs) stretch := by
  rintro ⟨_ | ⟨_, before⟩, _, heq, ⟨inner, rest, rfl, -⟩, -⟩ <;>
    obtain ⟨-, rfl⟩ := List.cons.inj heq <;> simp at h

/-- The candidate of a rule for brackets is the leftmost and then shortest match. -/
theorem bare?_eq_some_iff :
    bare? first last cs = some stretch ↔ IsCandidate (IsBareMatch first last) cs stretch := by
  induction cs with
  | nil =>
    refine iff_of_false nofun (not_isCandidate_nil ?_)
    rintro _ ⟨_, _, heq, -⟩
    cases heq
  | cons c cs ih =>
    by_cases hc : c = first
    · subst hc
      have hbare : bare? c last (c :: cs) = (upTo? last (fun _ => true) cs).map (c :: ·) := by
        rw [bare?, List.dropWhile_cons_of_neg (by simp)]
      rw [hbare, upTo?_true_eq_some_iff]
      by_cases hlast : last ∈ cs
      · obtain ⟨inner, rest, rfl⟩ := List.append_of_mem hlast
        rw [isCandidate_iff_of_match ⟨_, inner, rest, rfl, rfl⟩]
      · refine iff_of_false ?_ (not_isCandidate_of_notMem hlast)
        rintro ⟨⟨inner, rest, heq, -⟩, -⟩
        obtain ⟨-, rfl⟩ := List.cons.inj heq
        simp at hlast
    · have hbare : bare? first last (c :: cs) = bare? first last cs := by
        rw [bare?, List.dropWhile_cons_of_pos (by simpa using hc), ← bare?]
      rw [hbare, ih, isCandidate_cons_iff]
      rintro _ ⟨_, _, heq, -⟩
      exact hc (List.cons.inj heq).1

/-! ### The order of the rules -/

/-- The rules, in the order in which they are tried. -/
def rules : List Strategy :=
  [.fencedJson, .fenced, .bareObject, .bareArray]

/-- The candidate of a rule is a value. -/
def Reads (s : Strategy) (cs : List Char) (v : Json) : Prop :=
  ∃ stretch, IsCandidate (IsMatch s) cs stretch ∧ Json.parseChars? stretch = some v

/-- What is found in a text, and where. -/
inductive Finds (cs : List Char) : Json → Strategy → Prop
  /-- The whole text is a value. -/
  | direct {v : Json} (h : Json.parseChars? cs = some v) : Finds cs v .direct
  /-- The candidate of a rule is a value, and that of no earlier rule is. -/
  | rule {v : Json} {s : Strategy} {earlier later : List Strategy}
      (hwhole : Json.parseChars? cs = none) (hrules : rules = earlier ++ s :: later)
      (hearlier : ∀ t ∈ earlier, ∀ w, ¬Reads t cs w) (h : Reads s cs v) : Finds cs v s
  /-- The candidate of no rule is a value, and scanning finds one. -/
  | scan {v : Json} (hwhole : Json.parseChars? cs = none)
      (hrules : ∀ s ∈ rules, ∀ w, ¬Reads s cs w) (h : scan? cs = some v) : Finds cs v .scan

theorem candidate?_eq_some_iff {s : Strategy} (hs : s ∈ rules) :
    candidate? cs s = some stretch ↔ IsCandidate (IsMatch s) cs stretch := by
  cases s with
  | fencedJson | fenced => exact fenced?_eq_some_iff
  | bareObject | bareArray => exact bare?_eq_some_iff
  | direct | scan => simp [rules] at hs

theorem attempt?_eq_some_iff {s t : Strategy} {v : Json} (hs : s ∈ rules) :
    attempt? cs s = some (v, t) ↔ Reads s cs v ∧ s = t := by
  simp only [attempt?, Reads, Option.bind_eq_some_iff, Option.map_eq_some_iff,
    candidate?_eq_some_iff hs, Prod.mk.injEq, ← and_assoc, exists_and_right, exists_eq_right]

theorem attempt?_eq_none_iff {s : Strategy} (hs : s ∈ rules) :
    attempt? cs s = none ↔ ∀ v, ¬Reads s cs v := by
  rw [Option.eq_none_iff_forall_ne_some, Prod.forall]
  simp [attempt?_eq_some_iff hs]

theorem findSome?_rules_eq_some_iff {v : Json} {s : Strategy} :
    rules.findSome? (attempt? cs) = some (v, s) ↔ ∃ earlier later, rules = earlier ++ s :: later ∧
      (∀ t ∈ earlier, ∀ w, ¬Reads t cs w) ∧ Reads s cs v := by
  rw [List.findSome?_eq_some_iff]
  constructor
  · rintro ⟨earlier, t, later, hrules, hfound, hearlier⟩
    have hmem : ∀ u ∈ earlier ++ t :: later, u ∈ rules := fun _ hu => hrules ▸ hu
    obtain ⟨hread, rfl⟩ := (attempt?_eq_some_iff (hmem t (by simp))).1 hfound
    refine ⟨earlier, later, hrules, fun u hu => ?_, hread⟩
    exact (attempt?_eq_none_iff (hmem u (List.mem_append_left _ hu))).1 (hearlier u hu)
  · rintro ⟨earlier, later, hrules, hearlier, hread⟩
    have hmem : ∀ u ∈ earlier ++ s :: later, u ∈ rules := fun _ hu => hrules ▸ hu
    refine ⟨earlier, s, later, hrules, (attempt?_eq_some_iff (hmem s (by simp))).2 ⟨hread, rfl⟩,
      fun u hu => ?_⟩
    exact (attempt?_eq_none_iff (hmem u (List.mem_append_left _ hu))).2 (hearlier u hu)

theorem findSome?_rules_eq_none_iff :
    rules.findSome? (attempt? cs) = none ↔ ∀ s ∈ rules, ∀ v, ¬Reads s cs v := by
  rw [List.findSome?_eq_none_iff]
  exact forall₂_congr fun s hs => attempt?_eq_none_iff hs

/-- Finding a value tries the whole text, then the rules, then scanning. -/
theorem findChars?_eq (cs : List Char) :
    findChars? cs = ((Json.parseChars? cs).map (·, .direct)).or
      ((rules.findSome? (attempt? cs)).or ((scan? cs).map (·, .scan))) := by
  have hattempts : singleCandidate.findSome? (attempt? cs) =
      ((Json.parseChars? cs).map (·, .direct)).or (rules.findSome? (attempt? cs)) := by
    rw [singleCandidate, List.findSome?_cons]
    simp only [attempt?, candidate?, Option.bind_some]
    cases Json.parseChars? cs <;> rfl
  rw [findChars?, hattempts, ← Option.or_assoc]
  split <;> simp [*]

theorem isCandidate_unique (s : Strategy) :
    {stretch | IsCandidate (IsMatch s) cs stretch}.Subsingleton := by
  intro stretch h stretch' h'
  by_cases hs : s ∈ rules
  · exact Option.some_inj.1
      (((candidate?_eq_some_iff hs).2 h).symm.trans ((candidate?_eq_some_iff hs).2 h'))
  · -- the two strategies left have no match
    obtain ⟨_, _, _, hmatch, -⟩ := h
    cases s <;> first | exact hmatch.elim | simp [rules] at hs

/-- **The order of candidates.** Every rule has at most one candidate, its leftmost and then
shortest match.  What is found in a text is the text itself if it is a value; otherwise the
candidate of the first rule whose candidate is a value, and otherwise what scanning finds. -/
theorem find?_ordered (text : String) :
    (∀ s, {stretch | IsCandidate (IsMatch s) text.toList stretch}.Subsingleton) ∧
    ∀ v s, find? text = some (v, s) ↔ Finds text.toList v s := by
  refine ⟨isCandidate_unique, fun v s => ?_⟩
  simp only [find?, findChars?_eq, Option.or_eq_some_iff, Option.map_eq_some_iff,
    Option.map_eq_none_iff, findSome?_rules_eq_some_iff, findSome?_rules_eq_none_iff, Prod.mk.injEq]
  constructor
  · rintro (⟨_, h, rfl, rfl⟩ | ⟨hwhole, ⟨_, _, hrules, hearlier, h⟩ | ⟨hrules, _, h, rfl, rfl⟩⟩)
    · exact .direct h
    · exact .rule hwhole hrules hearlier h
    · exact .scan hwhole hrules h
  · rintro (h | ⟨hwhole, hrules, hearlier, h⟩ | ⟨hwhole, hrules, h⟩)
    · exact .inl ⟨v, h, rfl, rfl⟩
    · exact .inr ⟨hwhole, .inl ⟨_, _, hrules, hearlier, h⟩⟩
    · exact .inr ⟨hwhole, .inr ⟨hrules, v, h, rfl, rfl⟩⟩

end Extraction

end SceneLoop
