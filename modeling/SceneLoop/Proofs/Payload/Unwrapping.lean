import Mathlib
import SceneLoop.Payload.Normalization

/-!
# Normalization as bounded unwrapping

A payload is unwrapped one value at a time, whatever other fields an object around a visualization
has.  What normalization gives is decided by the value to which no further step applies: a scene if
that value has one of three shapes and is reached within the bound, and a rejection otherwise.

## Main definitions

* `Unwraps` : one step from a value to the value inside, with its label.
* `UnwrapsBy` : several steps, with their labels in order.
* `Json.IsBare` : no step applies.
* `Json.HasSceneShape` : the three shapes of a scene.
* `TraceStep.Counts` : the last step of a trace counts the layers of a scene and the entries that
  were dropped.

## Main results

* `unwraps_iff` : the steps are those of the shape of a value.
* `Normalizer.follow_of_unwrapsBy` : following a value past some steps.
* `exists_unwrapsBy` : within any bound the steps end, or there is one step more than the bound.
* `Normalizer.normalize_unwrapsBy` : normalization is bounded unwrapping and then the recognition of
  a shape.
-/

namespace SceneLoop

/-- One step from a value to the value inside.  A visualization in the object itself comes before
one in its answer. -/
inductive Unwraps : Json → Unwrapping → Json → Prop
  | text {s : String} {v : Json} {strategy : Strategy}
      (h : Extraction.find? s = some (v, strategy)) : Unwraps (.text s) (.extracted strategy) v
  | visualization {fields : Fields} {v : Json} (h : fields.get? "visualization" = some v)
      (hv : v.isTruthy) : Unwraps (.object fields) .visualization v
  | answerVisualization {fields answer : Fields} {v : Json}
      (hown : ∀ w, fields.get? "visualization" = some w → w.isTruthy = false)
      (hanswer : fields.get? "answer" = some (.object answer))
      (h : answer.get? "visualization" = some v) (hv : v.isTruthy) :
      Unwraps (.object fields) .answerVisualization v

/-- Several steps, one after the other. -/
inductive UnwrapsBy : Json → List Unwrapping → Json → Prop
  | nil (v : Json) : UnwrapsBy v [] v
  | cons {u v w : Json} {step : Unwrapping} {steps : List Unwrapping} (h : Unwraps u step v)
      (rest : UnwrapsBy v steps w) : UnwrapsBy u (step :: steps) w

namespace Json

/-- A value to which no step applies. -/
def IsBare (v : Json) : Prop :=
  ∀ step w, ¬Unwraps v step w

/-- The shapes of a scene: a list of layers, one layer, or an object with a list of layers. -/
inductive HasSceneShape : Json → Prop
  | array (items : List Json) : HasSceneShape (.array items)
  | layer {fields : Fields} {kind : Json} (hkind : fields.get? "type" = some kind)
      (htruthy : kind.isTruthy)
      (hlayers : fields.get? "layers" = none ∨ fields.get? "layers" = some .null) :
      HasSceneShape (.object fields)
  | scene {fields : Fields} {items : List Json}
      (hlayers : fields.get? "layers" = some (.array items)) : HasSceneShape (.object fields)

end Json

/-- The last step of the trace of a scene: it fits the value that the scene was read from, and its
counts are those of the layers and of the entries that are not objects. -/
def TraceStep.Counts (step : TraceStep) (s : Scene) (v : Json) : Prop :=
  match step, v with
  | .layerArray layers, .array items => layers = s.layers.length ∧ layers = items.length
  | .singleLayer, .object fields =>
    s.layers.length = 1 ∧ ∀ items, Fields.get? "layers" fields ≠ some (.array items)
  | .canonical layers dropped, .object fields =>
    layers = s.layers.length ∧ ∃ items, Fields.get? "layers" fields = some (.array items) ∧
      dropped = items.countP fun entry => entry.fields?.isNone
  | _, _ => False

/-! ### Steps and shapes -/

theorem Shape.present?_eq_some_iff {value : Option Json} {v : Json} :
    Shape.present? value = some v ↔ value = some v ∧ v.isTruthy := by
  simp [Shape.present?, Option.filter_eq_some_iff]

theorem Shape.present?_eq_none_iff {value : Option Json} :
    Shape.present? value = none ↔ ∀ v, value = some v → v.isTruthy = false := by
  simp [Shape.present?, Option.filter_eq_none_iff]

theorem Shape.answerVisualization?_eq_some_iff {fields : Fields} {v : Json} :
    Shape.answerVisualization? fields = some v ↔
      ∃ answer : Fields, fields.get? "answer" = some (.object answer) ∧
        answer.get? "visualization" = some v ∧ v.isTruthy := by
  simp only [Shape.answerVisualization?, Option.bind_eq_some_iff, present?_eq_some_iff]
  constructor
  · rintro ⟨answer, hanswer, inner, hinner, h⟩
    cases answer <;> cases hinner
    exact ⟨inner, hanswer, h⟩
  · rintro ⟨answer, hanswer, h⟩
    exact ⟨_, hanswer, answer, rfl, h⟩

/-- The steps are those of the shape of a value. -/
theorem unwraps_iff {u v : Json} {step : Unwrapping} :
    Unwraps u step v ↔ (Shape.of u).unwrap? = some (v, step) := by
  constructor
  · intro h
    cases h with
    | text h => simp [Shape.of, Shape.unwrap?, h]
    | visualization h hv =>
      have hown := Shape.present?_eq_some_iff.2 ⟨h, hv⟩
      simp [Shape.of, Shape.ofFields, hown, Shape.unwrap?]
    | answerVisualization hown hanswer h hv =>
      have hnone := Shape.present?_eq_none_iff.2 hown
      have hinner := Shape.answerVisualization?_eq_some_iff.2 ⟨_, hanswer, h, hv⟩
      simp [Shape.of, Shape.ofFields, hnone, hinner, Shape.unwrap?]
  · intro h
    cases u with
    | null | bool | number | array => simp [Shape.of, Shape.unwrap?] at h
    | text s =>
      simp only [Shape.of, Shape.unwrap?, Option.map_eq_some_iff] at h
      obtain ⟨⟨v, strategy⟩, hfind, h⟩ := h
      cases h
      exact .text hfind
    | object fields =>
      simp only [Shape.of, Shape.ofFields] at h
      split at h
      · next inner hown =>
        cases h
        obtain ⟨hget, hv⟩ := Shape.present?_eq_some_iff.1 hown
        exact .visualization hget hv
      · next hown =>
        split at h
        · next inner hinner =>
          cases h
          obtain ⟨answer, hanswer, hget, hv⟩ := Shape.answerVisualization?_eq_some_iff.1 hinner
          exact .answerVisualization (Shape.present?_eq_none_iff.1 hown) hanswer hget hv
        · simp only [Shape.ofPlainFields] at h
          split at h
          · cases h
          · split at h <;> cases h

theorem Json.isBare_iff {v : Json} : v.IsBare ↔ (Shape.of v).unwrap? = none := by
  simp only [IsBare, unwraps_iff, Option.eq_none_iff_forall_ne_some, Prod.forall]
  exact forall_comm

theorem Json.not_isBare_iff {v : Json} : ¬v.IsBare ↔ ∃ step w, Unwraps v step w := by
  simp only [IsBare, Classical.not_forall, Classical.not_not]

/-- Within any bound the steps end, or there is one step more than the bound. -/
theorem exists_unwrapsBy (bound : Nat) (u : Json) :
    (∃ steps v, UnwrapsBy u steps v ∧ v.IsBare ∧ steps.length ≤ bound) ∨
      ∃ steps v, UnwrapsBy u steps v ∧ steps.length = bound + 1 := by
  induction bound generalizing u with
  | zero =>
    by_cases hbare : u.IsBare
    · exact .inl ⟨[], u, .nil u, hbare, Nat.le_refl 0⟩
    · obtain ⟨step, v, h⟩ := Json.not_isBare_iff.1 hbare
      exact .inr ⟨[step], v, .cons h (.nil v), rfl⟩
  | succ bound ih =>
    by_cases hbare : u.IsBare
    · exact .inl ⟨[], u, .nil u, hbare, Nat.zero_le _⟩
    · obtain ⟨step, v, h⟩ := Json.not_isBare_iff.1 hbare
      rcases ih v with ⟨steps, w, hw, hend, hlen⟩ | ⟨steps, w, hw, hlen⟩
      · exact .inl ⟨step :: steps, w, .cons h hw, hend, Nat.succ_le_succ hlen⟩
      · exact .inr ⟨step :: steps, w, .cons h hw, congrArg (· + 1) hlen⟩

namespace Normalizer

variable {n : Normalizer}

/-! ### Following a value -/

theorem follow_succ_of_unwraps {u v : Json} {step : Unwrapping} (h : Unwraps u step v)
    (budget : Nat) :
    n.follow (budget + 1) u =
      ((n.follow budget v).1, .unwrapped step :: (n.follow budget v).2) := by
  rw [follow, unwraps_iff.1 h]

theorem follow_zero_of_unwraps {u v : Json} {step : Unwrapping} (h : Unwraps u step v) :
    n.follow 0 u = (none, [.unwrapped step, .rejected .tooDeep]) := by
  rw [follow, unwraps_iff.1 h]

/-- A value to which no step applies is what its shape says, within any budget. -/
theorem follow_of_isBare {v : Json} (hv : v.IsBare) (budget : Nat) :
    n.follow budget v =
      match n.recognize (Shape.of v) with
      | .ok (scene, step) => (some scene, [step])
      | .error reason => (none, [.rejected reason]) := by
  cases hrecognized : n.recognize (Shape.of v) with
  | ok found => simp only [follow, Json.isBare_iff.1 hv, hrecognized]
  | error reason => simp only [follow, Json.isBare_iff.1 hv, hrecognized]

/-- Following a value past some steps: their labels come first. -/
theorem follow_of_unwrapsBy {u v : Json} {steps : List Unwrapping} (h : UnwrapsBy u steps v)
    (budget : Nat) :
    n.follow (budget + steps.length) u =
      ((n.follow budget v).1, steps.map .unwrapped ++ (n.follow budget v).2) := by
  induction h with
  | nil v => rfl
  | cons h rest ih =>
    rw [List.length_cons, ← Nat.add_assoc, follow_succ_of_unwraps h, ih]
    rfl

/-- One step more than the budget is too much. -/
theorem follow_tooDeep {u v : Json} {steps : List Unwrapping} (h : UnwrapsBy u steps v)
    {budget : Nat} (hlen : steps.length = budget + 1) :
    n.follow budget u = (none, steps.map .unwrapped ++ [.rejected .tooDeep]) := by
  induction h generalizing budget with
  | nil v => cases hlen
  | cons h rest ih =>
    cases budget with
    | zero =>
      obtain rfl := List.eq_nil_of_length_eq_zero (by simpa using hlen)
      exact follow_zero_of_unwraps h
    | succ budget =>
      rw [follow_succ_of_unwraps h, ih (by simpa using hlen)]
      rfl

/-! ### The recognition of a shape -/

theorem shape_of_object_of_isBare {fields : Fields} (h : (Json.object fields).IsBare) :
    Shape.of (.object fields) = Shape.ofPlainFields fields := by
  have hnone := Json.isBare_iff.1 h
  simp only [Shape.of, Shape.ofFields] at hnone ⊢
  split
  · next hown => simp [hown, Shape.unwrap?] at hnone
  · next hown =>
    split
    · next hanswer => simp [hown, hanswer, Shape.unwrap?] at hnone
    · rfl

theorem length_filterMap_fields? (items : List Json) :
    items.length - (items.filterMap Json.fields?).length =
      items.countP fun entry => entry.fields?.isNone := by
  induction items with
  | nil => rfl
  | cons v items ih =>
    have hle := List.length_filterMap_le Json.fields? items
    cases hv : v.fields? <;> simp [hv] <;> omega

/-- A value of the shape of a scene is read as a scene, and its step counts the layers. -/
theorem recognize_of_hasSceneShape (n : Normalizer) {v : Json} (hbare : v.IsBare)
    (hv : v.HasSceneShape) :
    ∃ s last, n.recognize (Shape.of v) = .ok (s, last) ∧ last.Counts s v := by
  cases hv with
  | array items => exact ⟨_, _, rfl, by simp [TraceStep.Counts, Scene.ofLayers]⟩
  | @layer fields _ hkind htruthy hlayers =>
    have hpresent := Shape.present?_eq_some_iff.2 ⟨hkind, htruthy⟩
    have hnone : Shape.hasLayers fields = false := by
      rcases hlayers with h | h <;> simp [Shape.hasLayers, h, Json.isNull]
    rw [shape_of_object_of_isBare hbare, Shape.ofPlainFields, hpresent, hnone]
    refine ⟨_, _, rfl, rfl, fun items h => ?_⟩
    rcases hlayers with h' | h' <;> simp [h'] at h
  | @scene fields _ hlayers =>
    have hsome : Shape.hasLayers fields = true := by simp [Shape.hasLayers, hlayers, Json.isNull]
    rw [shape_of_object_of_isBare hbare, Shape.ofPlainFields, hsome, hlayers]
    simp only [Bool.not_true, Bool.and_false, Bool.false_eq_true, if_false]
    refine ⟨_, _, rfl, rfl, _, hlayers, ?_⟩
    simp [length_filterMap_fields?]

/-- Any other value to which no step applies is rejected. -/
theorem recognize_of_not_hasSceneShape (n : Normalizer) {v : Json} (hbare : v.IsBare)
    (hv : ¬v.HasSceneShape) : ∃ reason, n.recognize (Shape.of v) = .error reason := by
  cases v with
  | null | bool | number | text => exact ⟨_, rfl⟩
  | array items => exact absurd (.array items) hv
  | object fields =>
    rw [shape_of_object_of_isBare hbare, Shape.ofPlainFields]
    split
    · next h =>
      simp only [Bool.and_eq_true, Option.isSome_iff_exists, Shape.present?_eq_some_iff,
        Bool.not_eq_true'] at h
      obtain ⟨⟨kind, hkind, htruthy⟩, hnone⟩ := h
      refine absurd (.layer hkind htruthy ?_) hv
      simp only [Shape.hasLayers] at hnone
      split at hnone
      · next w hw =>
        cases w <;> simp [Json.isNull] at hnone
        exact .inr hw
      · next hw => exact .inl hw
    · split
      · next items h => exact absurd (.scene h) hv
      all_goals exact ⟨_, rfl⟩

/-! ### Normalization -/

/-- A payload that some steps lead from to a value without a further step is that value, with the
labels of the steps in front of its trace. -/
theorem normalize_of_unwrapsBy (n : Normalizer) {p v : Json} {steps : List Unwrapping}
    (h : UnwrapsBy p steps v) (hbare : v.IsBare) (hlen : steps.length ≤ maxUnwrappings) :
    n.normalize p = ⟨(n.normalize v).scene,
      ⟨p.kindName, steps.map .unwrapped ++ (n.normalize v).trace.steps⟩⟩ := by
  have hbudget : maxUnwrappings = maxUnwrappings - steps.length + steps.length := by omega
  have hfollow := follow_of_unwrapsBy (n := n) h (maxUnwrappings - steps.length)
  rw [← hbudget, follow_of_isBare hbare, ← follow_of_isBare hbare maxUnwrappings] at hfollow
  simp only [normalize, hfollow]

/-- The scene of a payload is recognized in the value that the steps lead to. -/
theorem exists_recognize_of_normalize {p : Json} {s : Scene} (h : (n.normalize p).scene = some s) :
    ∃ v step, n.recognize (Shape.of v) = .ok (s, step) := by
  rcases exists_unwrapsBy maxUnwrappings p with
    ⟨steps, v, hsteps, hbare, hlen⟩ | ⟨steps, v, hsteps, hlen⟩
  · rw [normalize_of_unwrapsBy n hsteps hbare hlen, normalize, follow_of_isBare hbare] at h
    cases hrecognized : n.recognize (Shape.of v) with
    | ok found =>
      rw [hrecognized] at h
      cases h
      exact ⟨v, found.2, hrecognized⟩
    | error reason =>
      rw [hrecognized] at h
      cases h
  · rw [normalize, follow_tooDeep hsteps hlen] at h
    cases h

theorem normalize_of_hasSceneShape (n : Normalizer) {v : Json} (hbare : v.IsBare)
    (hv : v.HasSceneShape) :
    ∃ s last, n.normalize v = ⟨some s, ⟨v.kindName, [last]⟩⟩ ∧ last.Counts s v := by
  obtain ⟨s, last, hok, hcounts⟩ := recognize_of_hasSceneShape n hbare hv
  exact ⟨s, last, by simp only [normalize, follow_of_isBare hbare, hok], hcounts⟩

theorem normalize_of_not_hasSceneShape (n : Normalizer) {v : Json} (hbare : v.IsBare)
    (hv : ¬v.HasSceneShape) :
    ∃ reason, n.normalize v = ⟨none, ⟨v.kindName, [.rejected reason]⟩⟩ := by
  obtain ⟨reason, herror⟩ := recognize_of_not_hasSceneShape n hbare hv
  exact ⟨reason, by simp only [normalize, follow_of_isBare hbare, herror]⟩

theorem isRejected_append (input : String) (steps : List TraceStep) (reason : Rejection) :
    (Trace.mk input (steps ++ [.rejected reason])).isRejected := by
  simp [Trace.isRejected]

theorem isRejected_append_of_counts (input : String) (steps : List TraceStep) {last : TraceStep}
    {s : Scene} {v : Json} (h : last.Counts s v) :
    (Trace.mk input (steps ++ [last])).isRejected = false := by
  cases last with
  | unwrapped | rejected => cases v <;> exact h.elim
  | layerArray | singleLayer | canonical => simp [Trace.isRejected]

/-- A payload that leads to the shape of a scene has the scene of that value, and its trace has the
labels of the steps and then the counts of the scene. -/
theorem normalize_of_unwrapsBy_of_hasSceneShape (n : Normalizer) {p v : Json}
    {steps : List Unwrapping} (h : UnwrapsBy p steps v) (hbare : v.IsBare)
    (hlen : steps.length ≤ maxUnwrappings) (hv : v.HasSceneShape) :
    ∃ s last, n.normalize p = ⟨some s, ⟨p.kindName, steps.map .unwrapped ++ [last]⟩⟩ ∧
      (n.normalize v).scene = some s ∧ last.Counts s v := by
  obtain ⟨s, last, hn, hcounts⟩ := normalize_of_hasSceneShape n hbare hv
  refine ⟨s, last, ?_, by rw [hn], hcounts⟩
  rw [normalize_of_unwrapsBy n h hbare hlen, hn]

/-- A payload leads to the shape of a scene, or it is rejected: at a value to which no step applies,
or after one step too many. -/
theorem hasSceneShape_or_rejected (n : Normalizer) (p : Json) :
    (∃ steps v, UnwrapsBy p steps v ∧ v.IsBare ∧ steps.length ≤ maxUnwrappings ∧
        v.HasSceneShape) ∨
      ∃ steps v reason, UnwrapsBy p steps v ∧
        (v.IsBare ∧ steps.length ≤ maxUnwrappings ∨ steps.length = maxUnwrappings + 1) ∧
        n.normalize p = ⟨none, ⟨p.kindName, steps.map .unwrapped ++ [.rejected reason]⟩⟩ := by
  rcases exists_unwrapsBy maxUnwrappings p with ⟨steps, v, h, hbare, hlen⟩ | ⟨steps, v, h, hlen⟩
  · by_cases hv : v.HasSceneShape
    · exact .inl ⟨steps, v, h, hbare, hlen, hv⟩
    · obtain ⟨reason, hn⟩ := normalize_of_not_hasSceneShape n hbare hv
      refine .inr ⟨steps, v, reason, h, .inl ⟨hbare, hlen⟩, ?_⟩
      rw [normalize_of_unwrapsBy n h hbare hlen, hn]
  · refine .inr ⟨steps, v, .tooDeep, h, .inr hlen, ?_⟩
    simp only [normalize, follow_tooDeep h hlen]

/-- **Normalization is bounded unwrapping and then the recognition of a shape.** A payload yields a
scene if and only if at most sixteen steps lead from it to a value to which no step applies and
which has one of the three shapes of a scene.  The scene is then the one of that value alone, and
the trace has the labels of the steps in order and one last step that counts the layers of the scene
and the entries that are not objects.  Otherwise there is no scene, and the trace has the labels of
the steps that were taken, to a value to which no step applies or one too many, and one rejection.
So the trace is rejected if and only if there is no scene. -/
theorem normalize_unwrapsBy (n : Normalizer) (p : Json) :
    ((n.normalize p).scene.isSome ↔
      ∃ steps v, UnwrapsBy p steps v ∧ v.IsBare ∧ steps.length ≤ 16 ∧ v.HasSceneShape) ∧
    (∀ steps v, UnwrapsBy p steps v → v.IsBare → steps.length ≤ 16 → v.HasSceneShape →
      ∃ s last, n.normalize p = ⟨some s, ⟨p.kindName, steps.map .unwrapped ++ [last]⟩⟩ ∧
        (n.normalize v).scene = some s ∧ last.Counts s v) ∧
    ((n.normalize p).scene = none →
      ∃ steps v reason, UnwrapsBy p steps v ∧
        (v.IsBare ∧ steps.length ≤ 16 ∨ steps.length = 17) ∧
        n.normalize p = ⟨none, ⟨p.kindName, steps.map .unwrapped ++ [.rejected reason]⟩⟩) ∧
    ((n.normalize p).trace.isRejected ↔ (n.normalize p).scene = none) := by
  have hscene : ∀ steps v, UnwrapsBy p steps v → v.IsBare → steps.length ≤ 16 →
      v.HasSceneShape →
      ∃ s last, n.normalize p = ⟨some s, ⟨p.kindName, steps.map .unwrapped ++ [last]⟩⟩ ∧
        (n.normalize v).scene = some s ∧ last.Counts s v :=
    fun steps v h hbare hlen hv => normalize_of_unwrapsBy_of_hasSceneShape n h hbare hlen hv
  rcases hasSceneShape_or_rejected n p with
    ⟨steps, v, h, hbare, hlen, hv⟩ | ⟨steps, v, reason, h, hend, hn⟩
  · obtain ⟨s, last, hn, -, hcounts⟩ := hscene steps v h hbare hlen hv
    refine ⟨⟨fun _ => ⟨steps, v, h, hbare, hlen, hv⟩, fun _ => by simp [hn]⟩, hscene, ?_, ?_⟩
    · simp [hn]
    · simp [hn, isRejected_append_of_counts _ _ hcounts]
  · refine ⟨⟨fun hsome => by simp [hn] at hsome, ?_⟩, hscene,
      fun _ => ⟨steps, v, reason, h, hend, hn⟩, by simp [hn, isRejected_append]⟩
    rintro ⟨steps', v', h', hbare', hlen', hv'⟩
    obtain ⟨s, last, hn', -⟩ := hscene steps' v' h' hbare' hlen' hv'
    simp [hn']

/-- A text in an answer, next to layers that do not count. -/
theorem normalize_unwrapsBy_answer :
    ∃ s last, (default : Normalizer).normalize
        (.object [("answer", .object [("visualization", .text "see: [true]")]),
          ("layers", .null)]) =
      ⟨some s, ⟨"object",
        [.unwrapped .answerVisualization, .unwrapped (.extracted .bareArray), last]⟩⟩ ∧
      ((default : Normalizer).normalize (.array [.bool true])).scene = some s ∧
      last.Counts s (.array [.bool true]) := by
  refine (normalize_unwrapsBy default _).2.1 [.answerVisualization, .extracted .bareArray] _
    (.cons (.answerVisualization (by simp [Fields.get?]) rfl rfl rfl)
      (.cons (.text (by cbv)) (.nil _))) ?_ (by decide) (.array _)
  rintro step w ⟨⟩

/-- A value that has the shape of a scene is not read as one while a step applies to it: the step is
taken first.  So a layer with a visualization that is a boolean yields no scene, and the trace of a
list of layers with a visualization does not end after no steps. -/
theorem not_recognized_before_unwrapped :
    let p : Json := .object [("type", .text "rect"), ("visualization", .bool true)]
    let q : Json := .object [("layers", .array []),
      ("visualization", .object [("type", .text "rect")])]
    ¬(((default : Normalizer).normalize p).scene.isSome ↔
        ∃ steps v, UnwrapsBy p steps v ∧ steps.length ≤ 16 ∧ v.HasSceneShape) ∧
      UnwrapsBy q [] q ∧ q.HasSceneShape ∧
        ¬∃ last, ((default : Normalizer).normalize q).trace.steps = [last] := by
  intro p q
  refine ⟨fun h => ?_, .nil _, .scene rfl, ?_⟩
  · have hsome := h.2 ⟨[], _, .nil _, Nat.zero_le 16, .layer rfl (by decide) (.inl rfl)⟩
    exact absurd hsome (by decide)
  · rintro ⟨last, hlast⟩
    have hlength : ((default : Normalizer).normalize q).trace.steps.length = 1 := by rw [hlast]; rfl
    exact absurd hlength (by decide)

end Normalizer

end SceneLoop
