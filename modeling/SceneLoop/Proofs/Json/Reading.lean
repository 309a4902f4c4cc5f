import SceneLoop.Json.Reader
import SceneLoop.Proofs.Json.Sorted

/-!
# The reader keeps objects sorted

Whatever the reader has collected is sorted after every character, so the value of a text is sorted
throughout.

## Main definitions

* `Json.Reader.IsSorted` : everything that the machine holds is sorted.

## Main results

* `Json.Reader.IsSorted.step` : one character keeps what the machine holds sorted.
* `Json.Reader.IsSorted.run` : so do any number of characters.
* `Json.isSorted_of_parse?` : the value of a text is sorted.
-/

namespace SceneLoop.Json

/-- What has been read of an array or object is sorted. -/
def Container.IsSorted : Container → Prop
  | .array items => ∀ v ∈ items, v.IsSorted
  | .object fields _ => (Json.object fields).IsSorted

/-- The value that is complete, or will be, is sorted. -/
def Mode.IsSorted : Mode → Prop
  | .finished v | .word _ v => v.IsSorted
  | _ => True

namespace Reader

/-! ### Moves -/

theorem run_cons (r : Reader) (c : Char) (cs : List Char) :
    r.run (c :: cs) = (r.step c).bind fun r' => r'.run cs :=
  List.foldlM_cons

theorem enter_of_lt (c : Container) (mode : Mode) {inside : List Container}
    (h : inside.length < maxDepth) : enter c mode inside = some ⟨c :: inside, mode⟩ := by
  rw [enter, if_pos h]

/-! ### Sorted objects -/

/-- Everything that the machine holds is sorted. -/
structure IsSorted (r : Reader) : Prop where
  inside : ∀ c ∈ r.inside, c.IsSorted
  mode : r.mode.IsSorted

theorem isSorted_start : start.IsSorted :=
  ⟨by simp [start], trivial⟩

variable {inside : List Container}

theorem isSorted_complete (h : ∀ c ∈ inside, c.IsSorted) {v : Json} (hv : v.IsSorted) :
    (complete v inside).IsSorted := by
  cases inside with
  | nil => exact ⟨by simp [complete], hv⟩
  | cons c rest =>
    obtain ⟨hc, hrest⟩ := List.forall_mem_cons.1 h
    cases c with
    | array items =>
      exact ⟨List.forall_mem_cons.2 ⟨List.forall_mem_cons.2 ⟨hv, hc⟩, hrest⟩, trivial⟩
    | object fields name =>
      obtain ⟨hsorted, hvalues⟩ := isSorted_object.1 hc
      have hinsert : (Json.object (fields.insert name v)).IsSorted := by
        refine isSorted_object.2 ⟨hsorted.insert name v, fun f hf => ?_⟩
        rcases Fields.mem_insert hf with rfl | hf
        · exact hv
        · exact hvalues f hf
      exact ⟨List.forall_mem_cons.2 ⟨hinsert, hrest⟩, trivial⟩

theorem isSorted_completeText (h : ∀ c ∈ inside, c.IsSorted) {isName : Bool} {s : String}
    {r : Reader} (hr : completeText isName s inside = some r) : r.IsSorted := by
  simp only [completeText] at hr
  split at hr
  · split at hr
    · cases hr
      obtain ⟨hfields, hrest⟩ := List.forall_mem_cons.1 h
      exact ⟨List.forall_mem_cons.2 ⟨hfields, hrest⟩, trivial⟩
    · cases hr
  · cases hr
    exact isSorted_complete h trivial

theorem isSorted_enter (h : ∀ c ∈ inside, c.IsSorted) {c : Container} (hc : c.IsSorted)
    {mode : Mode} (hmode : mode.IsSorted) {r : Reader} (hr : enter c mode inside = some r) :
    r.IsSorted := by
  rw [enter] at hr
  split at hr
  · cases hr
    exact ⟨List.forall_mem_cons.2 ⟨hc, h⟩, hmode⟩
  · cases hr

theorem isSorted_startValue (h : ∀ c ∈ inside, c.IsSorted) {c : Char} {r : Reader}
    (hr : startValue inside c = some r) : r.IsSorted := by
  have hempty : (Container.object [] "").IsSorted := isSorted_object.2 ⟨.nil, by simp⟩
  unfold startValue at hr
  split at hr
  · cases hr
    exact ⟨h, trivial⟩
  split at hr
  · have hmode : Mode.IsSorted .firstItem := trivial
    exact isSorted_enter h (by simp [Container.IsSorted]) hmode hr
  split at hr
  · have hmode : Mode.IsSorted .firstName := trivial
    exact isSorted_enter h hempty hmode hr
  all_goals repeat' split at hr
  all_goals cases hr
  all_goals exact ⟨h, trivial⟩

theorem isSorted_separate (h : ∀ c ∈ inside, c.IsSorted) {c : Char} {r : Reader}
    (hr : separate c inside = some r) : r.IsSorted := by
  cases inside with
  | nil => cases hr
  | cons d rest =>
    obtain ⟨hd, hrest⟩ := List.forall_mem_cons.1 h
    cases d with
    | array items =>
      simp only [separate] at hr
      split at hr
      · cases hr
        exact ⟨h, trivial⟩
      split at hr
      · cases hr
        exact isSorted_complete hrest (isSorted_array.2 fun v hv => hd v (List.mem_reverse.1 hv))
      · cases hr
    | object fields name =>
      simp only [separate] at hr
      split at hr
      · cases hr
        exact ⟨h, trivial⟩
      split at hr
      · cases hr
        exact isSorted_complete hrest hd
      · cases hr

theorem isSorted_stepText (h : ∀ c ∈ inside, c.IsSorted) {isName : Bool} {read : List Char}
    {c : Char} {escape : Escape} {r : Reader}
    (hr : stepText inside isName read c escape = some r) : r.IsSorted := by
  cases escape with
  | none =>
    simp only [stepText] at hr
    split at hr
    · exact isSorted_completeText h hr
    repeat' split at hr
    all_goals cases hr
    all_goals exact ⟨h, trivial⟩
  | started =>
    simp only [stepText] at hr
    split at hr
    · cases hr
      exact ⟨h, trivial⟩
    · obtain ⟨d, -, rfl⟩ := Option.map_eq_some_iff.1 hr
      exact ⟨h, trivial⟩
  | unit first count value =>
    simp only [stepText] at hr
    obtain ⟨d, -, hr⟩ := Option.bind_eq_some_iff.1 hr
    repeat' split at hr
    all_goals cases hr
    all_goals exact ⟨h, trivial⟩
  | pair high | pairMark high =>
    simp only [stepText] at hr
    split at hr <;> cases hr
    exact ⟨h, trivial⟩

theorem isSorted_completeNumber? (h : ∀ c ∈ inside, c.IsSorted) {read : List Char}
    {part : NumberPart} {r : Reader} (hr : completeNumber? inside read part = some r) :
    r.IsSorted := by
  rw [completeNumber?] at hr
  split at hr
  · obtain ⟨n, -, rfl⟩ := Option.map_eq_some_iff.1 hr
    exact isSorted_complete h trivial
  · cases hr

theorem IsSorted.stepAfter {r r' : Reader} (h : r.IsSorted) {c : Char}
    (hr : r.stepAfter c = some r') : r'.IsSorted := by
  rw [Reader.stepAfter] at hr
  split at hr
  · cases hr
    exact h
  · exact isSorted_separate h.inside hr

/-- One character keeps what the machine holds sorted. -/
theorem IsSorted.step {r r' : Reader} (h : r.IsSorted) {c : Char} (hr : r.step c = some r') :
    r'.IsSorted := by
  obtain ⟨inside, mode⟩ := r
  have hin : ∀ c ∈ inside, c.IsSorted := h.inside
  cases mode with
  | value =>
    simp only [Reader.step] at hr
    split at hr
    · cases hr
      exact h
    · exact isSorted_startValue hin hr
  | firstItem =>
    simp only [Reader.step] at hr
    split at hr
    · cases hr
      exact h
    split at hr
    · exact isSorted_separate hin hr
    · exact isSorted_startValue hin hr
  | firstName =>
    simp only [Reader.step] at hr
    split at hr
    · cases hr
      exact h
    split at hr
    · cases hr
      exact ⟨hin, trivial⟩
    split at hr
    · exact isSorted_separate hin hr
    · cases hr
  | name | colon =>
    simp only [Reader.step] at hr
    repeat' split at hr
    all_goals cases hr
    all_goals exact ⟨hin, trivial⟩
  | separator => exact h.stepAfter hr
  | finished v =>
    simp only [Reader.step] at hr
    split at hr <;> cases hr
    exact h
  | text isName read escape => exact isSorted_stepText hin hr
  | word rest v =>
    have hv : v.IsSorted := h.mode
    match rest, hr with
    | [d], hr =>
      simp only [Reader.step] at hr
      split at hr <;> cases hr
      exact isSorted_complete hin hv
    | d :: e :: rest, hr =>
      simp only [Reader.step] at hr
      split at hr <;> cases hr
      exact ⟨hin, hv⟩
  | number read part =>
    simp only [Reader.step] at hr
    split at hr
    · cases hr
      exact ⟨hin, trivial⟩
    · obtain ⟨r, hcomplete, hr⟩ := Option.bind_eq_some_iff.1 hr
      exact (isSorted_completeNumber? hin hcomplete).stepAfter hr

/-- Any number of characters keep what the machine holds sorted. -/
theorem IsSorted.run {r r' : Reader} (h : r.IsSorted) {cs : List Char} (hr : r.run cs = some r') :
    r'.IsSorted := by
  induction cs generalizing r with
  | nil =>
    cases hr
    exact h
  | cons c cs ih =>
    rw [run_cons] at hr
    obtain ⟨r₁, hstep, hr⟩ := Option.bind_eq_some_iff.1 hr
    exact ih (h.step hstep) hr

theorem IsSorted.result? {r : Reader} (h : r.IsSorted) {v : Json} (hv : r.result? = some v) :
    v.IsSorted := by
  simp only [Reader.result?] at hv
  split at hv
  · next hmode =>
    cases hv
    have hm := h.mode
    rwa [hmode] at hm
  · obtain ⟨r', hcomplete, hv⟩ := Option.bind_eq_some_iff.1 hv
    have hm := (isSorted_completeNumber? h.inside hcomplete).mode
    split at hv
    · next hmode =>
      cases hv
      rwa [hmode] at hm
    · cases hv
  · cases hv

end Reader

theorem isSorted_of_parseChars? {cs : List Char} {v : Json} (h : parseChars? cs = some v) :
    v.IsSorted := by
  obtain ⟨r, hrun, hv⟩ := Option.bind_eq_some_iff.1 h
  exact (Reader.isSorted_start.run hrun).result? hv

/-- The value of a text is sorted. -/
theorem isSorted_of_parse? {s : String} {v : Json} (h : parse? s = some v) : v.IsSorted :=
  isSorted_of_parseChars? h

end SceneLoop.Json
