import Mathlib
import SceneLoop.Proofs.Json.Reading

/-!
# The value at the beginning of a text

Once a bracket is open, the reader holds a complete value for the first time when the last open
bracket is closed, and after that it takes nothing but gaps.  So a text that begins with an opening
bracket has at most one beginning that ends in a closing bracket and is a value, and that beginning
is where one pass of the reader stops.

## Main definitions

* `Json.Reader.IsOpen` : something is open, and no value is complete.

## Main results

* `Json.Reader.IsOpen.step` : one character leaves something open, or it closes the last bracket.
* `Json.Reader.run_of_finished` : after a complete value there are only gaps.
* `Json.leading?_eq_some_iff` : one pass stops at the beginning that is a value.
-/

namespace SceneLoop.Json

/-- Whether a character opens an array or object. -/
def IsOpening (c : Char) : Prop :=
  c = '\x7b' ∨ c = '['

/-- Whether a character closes an array or object. -/
def IsClosing (c : Char) : Prop :=
  c = '\x7d' ∨ c = ']'

theorem IsClosing.not_isGap {c : Char} (h : IsClosing c) : ¬isGap c := by
  rcases h with rfl | rfl <;> decide

namespace Reader

/-- Something is open, and no value is complete. -/
structure IsOpen (r : Reader) : Prop where
  inside : r.inside ≠ []
  mode : ∀ v, r.mode ≠ .finished v

variable {inside : List Container} {r r' : Reader} {c : Char} {v : Json}

/-! ### Before the last bracket is closed -/

theorem isOpen_complete (h : inside ≠ []) (v : Json) : (complete v inside).IsOpen := by
  cases inside with
  | nil => exact absurd rfl h
  | cons d rest => cases d <;> exact ⟨List.cons_ne_nil _ _, by simp [complete]⟩

theorem isOpen_completeText (h : inside ≠ []) {isName : Bool} {s : String}
    (hr : completeText isName s inside = some r) : r.IsOpen := by
  simp only [completeText] at hr
  split at hr
  · split at hr <;> cases hr
    exact ⟨by simp, by simp⟩
  · cases hr
    exact isOpen_complete h _

theorem isOpen_enter {d : Container} {mode : Mode} (hr : enter d mode inside = some r)
    (hmode : ∀ v, mode ≠ .finished v) : r.IsOpen := by
  rw [enter] at hr
  split at hr <;> cases hr
  exact ⟨by simp, hmode⟩

theorem isOpen_startValue (h : inside ≠ []) (hr : startValue inside c = some r) : r.IsOpen := by
  unfold startValue at hr
  split at hr
  · cases hr
    exact ⟨h, by simp⟩
  split at hr
  · exact isOpen_enter hr (by simp)
  split at hr
  · exact isOpen_enter hr (by simp)
  all_goals repeat' split at hr
  all_goals cases hr
  all_goals exact ⟨h, by simp⟩

theorem isOpen_stepText (h : inside ≠ []) {isName : Bool} {read : List Char} {escape : Escape}
    (hr : stepText inside isName read c escape = some r) : r.IsOpen := by
  cases escape with
  | none =>
    simp only [stepText] at hr
    split at hr
    · exact isOpen_completeText h hr
    repeat' split at hr
    all_goals cases hr
    all_goals exact ⟨h, by simp⟩
  | started =>
    simp only [stepText] at hr
    split at hr
    · cases hr
      exact ⟨h, by simp⟩
    · obtain ⟨d, -, rfl⟩ := Option.map_eq_some_iff.1 hr
      exact ⟨h, by simp⟩
  | unit first count value =>
    simp only [stepText] at hr
    obtain ⟨d, -, hr⟩ := Option.bind_eq_some_iff.1 hr
    repeat' split at hr
    all_goals cases hr
    all_goals exact ⟨h, by simp⟩
  | pair high | pairMark high =>
    simp only [stepText] at hr
    split at hr <;> cases hr
    exact ⟨h, by simp⟩

theorem isOpen_completeNumber? (h : inside ≠ []) {read : List Char} {part : NumberPart}
    (hr : completeNumber? inside read part = some r) : r.IsOpen := by
  rw [completeNumber?] at hr
  split at hr
  · obtain ⟨n, -, rfl⟩ := Option.map_eq_some_iff.1 hr
    exact isOpen_complete h _
  · cases hr

/-! ### The bracket that closes the last one open -/

/-- A value that is complete leaves something open, or is the answer. -/
theorem isOpen_or_finished_complete (v : Json) (inside : List Container) :
    (complete v inside).IsOpen ∨ ∃ w, (complete v inside).mode = .finished w := by
  cases inside with
  | nil => exact .inr ⟨v, rfl⟩
  | cons d rest => exact .inl (isOpen_complete (List.cons_ne_nil d rest) v)

theorem separate_cases (hr : separate c inside = some r) :
    r.IsOpen ∨ IsClosing c ∧ ∃ v, r.mode = .finished v := by
  cases inside with
  | nil => cases hr
  | cons d rest =>
    cases d with
    | array items =>
      simp only [separate] at hr
      split at hr
      · cases hr
        exact .inl ⟨List.cons_ne_nil _ _, by simp⟩
      split at hr
      · next hclose =>
        cases hr
        exact (isOpen_or_finished_complete _ rest).imp_right fun hv => ⟨.inr hclose, hv⟩
      · cases hr
    | object fields name =>
      simp only [separate] at hr
      split at hr
      · cases hr
        exact .inl ⟨List.cons_ne_nil _ _, by simp⟩
      split at hr
      · next hclose =>
        cases hr
        exact (isOpen_or_finished_complete _ rest).imp_right fun hv => ⟨.inl hclose, hv⟩
      · cases hr

theorem IsOpen.stepAfter (h : r.IsOpen) (hr : r.stepAfter c = some r') :
    r'.IsOpen ∨ IsClosing c ∧ ∃ v, r'.mode = .finished v := by
  rw [Reader.stepAfter] at hr
  split at hr
  · cases hr
    exact .inl h
  · exact separate_cases hr

/-- One character leaves something open, or it closes the last bracket and completes the value. -/
theorem IsOpen.step (h : r.IsOpen) (hr : r.step c = some r') :
    r'.IsOpen ∨ IsClosing c ∧ ∃ v, r'.mode = .finished v := by
  obtain ⟨inside, mode⟩ := r
  have hin : inside ≠ [] := h.inside
  cases mode with
  | value =>
    simp only [Reader.step] at hr
    split at hr
    · cases hr
      exact .inl h
    · exact .inl (isOpen_startValue hin hr)
  | firstItem =>
    simp only [Reader.step] at hr
    split at hr
    · cases hr
      exact .inl h
    split at hr
    · exact separate_cases hr
    · exact .inl (isOpen_startValue hin hr)
  | firstName =>
    simp only [Reader.step] at hr
    split at hr
    · cases hr
      exact .inl h
    split at hr
    · cases hr
      exact .inl ⟨hin, by simp⟩
    split at hr
    · exact separate_cases hr
    · cases hr
  | name | colon =>
    simp only [Reader.step] at hr
    repeat' split at hr
    all_goals cases hr
    all_goals exact .inl ⟨hin, by simp⟩
  | separator => exact h.stepAfter hr
  | finished v => exact absurd rfl (h.mode v)
  | text isName read escape => exact .inl (isOpen_stepText hin hr)
  | word rest v =>
    cases rest with
    | nil => cases hr
    | cons d rest =>
      cases rest with
      | nil =>
        simp only [Reader.step] at hr
        split at hr <;> cases hr
        exact .inl (isOpen_complete hin v)
      | cons e rest =>
        simp only [Reader.step] at hr
        split at hr <;> cases hr
        exact .inl ⟨hin, by simp⟩
  | number read part =>
    simp only [Reader.step] at hr
    split at hr
    · cases hr
      exact .inl ⟨hin, by simp⟩
    · obtain ⟨r, hcomplete, hr⟩ := Option.bind_eq_some_iff.1 hr
      exact (isOpen_completeNumber? hin hcomplete).stepAfter hr

/-! ### After the value -/

theorem step_of_finished (h : r.mode = .finished v) (c : Char) :
    r.step c = if isGap c then some r else none := by
  simp only [step, h]

/-- After a complete value there are only gaps, and it stays. -/
theorem run_of_finished {cs : List Char} (h : r.mode = .finished v) (hr : r.run cs = some r') :
    (∀ c ∈ cs, isGap c) ∧ r'.mode = .finished v := by
  induction cs with
  | nil =>
    cases hr
    exact ⟨by simp, h⟩
  | cons c cs ih =>
    rw [run_cons, step_of_finished h] at hr
    split at hr
    · next hgap =>
      obtain ⟨hgaps, hfinished⟩ := ih hr
      exact ⟨List.forall_mem_cons.2 ⟨hgap, hgaps⟩, hfinished⟩
    · cases hr

/-- From an open bracket on, something is open until the value is complete. -/
theorem IsOpen.run {cs : List Char} (h : r.IsOpen) (hr : r.run cs = some r') :
    r'.IsOpen ∨ ∃ v, r'.mode = .finished v := by
  induction cs generalizing r with
  | nil =>
    cases hr
    exact .inl h
  | cons c cs ih =>
    rw [run_cons] at hr
    obtain ⟨r₁, hstep, hr⟩ := Option.bind_eq_some_iff.1 hr
    obtain hopen | ⟨-, v, hv⟩ := h.step hstep
    · exact ih hopen hr
    · exact .inr ⟨v, (run_of_finished hv hr).2⟩

/-- While something is open there is no result. -/
theorem IsOpen.result?_eq_none (h : r.IsOpen) : r.result? = none := by
  simp only [result?]
  split
  · next v hv => exact absurd hv (h.mode v)
  · next read part _ =>
    refine Option.bind_eq_none_iff.2 fun r' hr' => ?_
    have hopen := isOpen_completeNumber? h.inside hr'
    split
    · next v hv => exact absurd hv (hopen.mode v)
    · rfl
  · rfl

/-- From an open bracket on, the only result is the complete value. -/
theorem IsOpen.result?_run {cs : List Char} (h : r.IsOpen) :
    (r.run cs).bind result? = some v ↔ ∃ r', r.run cs = some r' ∧ r'.mode = .finished v := by
  rw [Option.bind_eq_some_iff]
  refine exists_congr fun r' => and_congr_right fun hr => ?_
  obtain hopen | ⟨w, hw⟩ := h.run hr
  · rw [hopen.result?_eq_none]
    exact iff_of_false (by simp) (hopen.mode v)
  · have hresult : r'.result? = some w := by simp only [result?, hw]
    rw [hresult, Option.some.injEq]
    rw [hw, Mode.finished.injEq]

/-- One pass takes the next character, and stops if that completes the value. -/
theorem leadingFrom?_cons_of_finished {cs : List Char} (hstep : r.step c = some r')
    (hv : r'.mode = .finished v) : leadingFrom? r (c :: cs) = some (v, cs) := by
  simp only [leadingFrom?, hstep, Option.bind_some, hv]

theorem leadingFrom?_cons_of_isOpen {cs : List Char} (hstep : r.step c = some r')
    (h : r'.IsOpen) : leadingFrom? r (c :: cs) = leadingFrom? r' cs := by
  rw [leadingFrom?, hstep, Option.bind_some]
  split
  · next v hv => exact absurd hv (h.mode v)
  · rfl

/-- Where one pass stops, a closing bracket has completed the value. -/
theorem IsOpen.exists_of_leadingFrom? {cs rest : List Char} (h : r.IsOpen)
    (hleading : leadingFrom? r cs = some (v, rest)) :
    ∃ read c r', cs = read ++ c :: rest ∧ IsClosing c ∧ r.run (read ++ [c]) = some r' ∧
      r'.mode = .finished v := by
  induction cs generalizing r with
  | nil => cases hleading
  | cons c cs ih =>
    have hsome := hleading
    rw [leadingFrom?] at hsome
    obtain ⟨r₁, hstep, -⟩ := Option.bind_eq_some_iff.1 hsome
    obtain hopen | ⟨hclosing, w, hw⟩ := h.step hstep
    · rw [leadingFrom?_cons_of_isOpen hstep hopen] at hleading
      obtain ⟨read, d, r', rfl, hd, hr, hv⟩ := ih hopen hleading
      refine ⟨c :: read, d, r', rfl, hd, ?_, hv⟩
      rw [List.cons_append, run_cons, hstep, Option.bind_some, hr]
    · rw [leadingFrom?_cons_of_finished hstep hw] at hleading
      cases hleading
      exact ⟨[], c, r₁, rfl, hclosing, by rw [List.nil_append, run_cons, hstep]; rfl, hw⟩

/-- One pass stops at the closing bracket that completes the value. -/
theorem IsOpen.leadingFrom?_append {read : List Char} (h : r.IsOpen) (hc : IsClosing c)
    (hr : r.run (read ++ [c]) = some r') (hv : r'.mode = .finished v) (rest : List Char) :
    leadingFrom? r (read ++ c :: rest) = some (v, rest) := by
  induction read generalizing r with
  | nil =>
    rw [List.nil_append, run_cons] at hr
    obtain ⟨r₁, hstep, hr⟩ := Option.bind_eq_some_iff.1 hr
    cases hr
    exact leadingFrom?_cons_of_finished hstep hv
  | cons d read ih =>
    rw [List.cons_append, run_cons] at hr
    obtain ⟨r₁, hstep, hr⟩ := Option.bind_eq_some_iff.1 hr
    obtain hopen | ⟨-, w, hw⟩ := h.step hstep
    · rw [List.cons_append, leadingFrom?_cons_of_isOpen hstep hopen]
      exact ih hopen hr
    · -- Once the value is complete, there is no bracket to come.
      have hgap := (run_of_finished hw hr).1 c (List.mem_append_right _ List.mem_cons_self)
      exact absurd hgap hc.not_isGap

/-- An opening bracket leaves something open. -/
theorem exists_isOpen_step_start (hc : IsOpening c) : ∃ r, start.step c = some r ∧ r.IsOpen := by
  rcases hc with rfl | rfl
  · exact ⟨⟨[.object [] ""], .firstName⟩, rfl, ⟨List.cons_ne_nil _ _, by simp⟩⟩
  · exact ⟨⟨[.array []], .firstItem⟩, rfl, ⟨List.cons_ne_nil _ _, by simp⟩⟩

end Reader

/-- **The value at the beginning of a text.** After an opening bracket, one pass of the reader stops
at a closing bracket exactly if the text up to that bracket is a value. -/
theorem leading?_eq_some_iff {c : Char} (hc : IsOpening c) {cs rest : List Char} {v : Json} :
    leading? (c :: cs) = some (v, rest) ↔
      ∃ read d, cs = read ++ d :: rest ∧ IsClosing d ∧
        parseChars? (c :: (read ++ [d])) = some v := by
  obtain ⟨r, hstep, hopen⟩ := Reader.exists_isOpen_step_start hc
  have hparse (ds : List Char) :
      parseChars? (c :: ds) = some v ↔ ∃ r', r.run ds = some r' ∧ r'.mode = .finished v := by
    rw [parseChars?, Reader.run_cons, hstep, Option.bind_some, hopen.result?_run]
  rw [leading?, Reader.leadingFrom?_cons_of_isOpen hstep hopen]
  simp only [hparse]
  constructor
  · intro h
    obtain ⟨read, d, r', rfl, hd, hr, hv⟩ := hopen.exists_of_leadingFrom? h
    exact ⟨read, d, rfl, hd, r', hr, hv⟩
  · rintro ⟨read, d, rfl, hd, r', hr, hv⟩
    exact hopen.leadingFrom?_append hd hr hv rest

end SceneLoop.Json
