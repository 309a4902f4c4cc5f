import SceneLoop.Command.Run
import SceneLoop.Proofs.Json.Reading
import SceneLoop.Proofs.Payload.Unwrapping

/-!
# Payloads that come as texts

A text can be understood in two ways: a command reads the value that the text is before anything is
unwrapped, while the text as it stands is a payload from which that value is unwrapped first.  The
second way spends one step more, and all later steps are the same.  So both find the same scene,
unless the value is just as many steps from its scene as a payload may be.

## Main definitions

* `Json.IsStepsFromScene` : how many steps lead from a value to the shape of a scene.
* `Normalizer.IsAtLimit` : a text whose value is as many steps from its scene as a payload may be.

## Main results

* `Normalizer.fst_follow_succ` : what one more step in the budget can change.
* `Normalizer.textEntries_agree` : the two ways to understand a text agree, but for the limit.
-/

namespace SceneLoop

/-- A number of steps leads from a value to one that has the shape of a scene, and no step leads
any further. -/
def Json.IsStepsFromScene (v : Json) (count : Nat) : Prop :=
  ∃ steps w, UnwrapsBy v steps w ∧ w.IsBare ∧ w.HasSceneShape ∧ steps.length = count

theorem Unwraps.isStepsFromScene {u v : Json} {step : Unwrapping} (h : Unwraps u step v)
    {count : Nat} (hv : v.IsStepsFromScene count) : u.IsStepsFromScene (count + 1) := by
  obtain ⟨steps, w, hsteps, hbare, hshape, rfl⟩ := hv
  exact ⟨step :: steps, w, .cons h hsteps, hbare, hshape, rfl⟩

/-- A text that is a value as a whole is unwrapped to that value. -/
theorem unwraps_of_parse? {text : String} {v : Json} (h : Json.parse? text = some v) :
    Unwraps (.text text) (.extracted .direct) v := by
  have hdirect : Extraction.attempt? text.toList .direct = some (v, .direct) := by
    rw [Extraction.attempt?, Extraction.candidate?, Option.bind_some, ← Json.parse?, h,
      Option.map_some]
  refine .text ?_
  rw [Extraction.find?, Extraction.findChars?, Extraction.singleCandidate, List.findSome?_cons,
    hdirect]

namespace Normalizer

/-- The text is a value from which exactly sixteen steps lead to a scene. -/
def IsAtLimit (text : String) : Prop :=
  ∃ v, Json.parse? text = some v ∧ v.IsStepsFromScene 16

/-! ### One step more in the budget -/

theorem fst_follow_of_isBare (n : Normalizer) {v : Json} (hbare : v.IsBare) (budget budget' : Nat) :
    (n.follow budget v).1 = (n.follow budget' v).1 := by
  rw [follow_of_isBare hbare, follow_of_isBare hbare]

/-- Without any step, only a value that has the shape of a scene gives one. -/
theorem fst_follow_zero_eq_none (n : Normalizer) {v : Json} (h : ¬v.IsStepsFromScene 0) :
    (n.follow 0 v).1 = none := by
  by_cases hbare : v.IsBare
  · have hshape : ¬v.HasSceneShape := fun hshape => h ⟨[], v, .nil v, hbare, hshape, rfl⟩
    obtain ⟨reason, herror⟩ := recognize_of_not_hasSceneShape n hbare hshape
    rw [follow_of_isBare hbare, herror]
  · obtain ⟨step, w, hstep⟩ := Json.not_isBare_iff.1 hbare
    rw [follow_zero_of_unwraps hstep]

/-- One more step in the budget changes the scene of a value only if the scene is exactly as many
steps away. -/
theorem fst_follow_succ (n : Normalizer) {budget : Nat} {v : Json}
    (h : ¬v.IsStepsFromScene (budget + 1)) :
    (n.follow (budget + 1) v).1 = (n.follow budget v).1 := by
  induction budget generalizing v with
  | zero =>
    by_cases hbare : v.IsBare
    · exact n.fst_follow_of_isBare hbare 1 0
    · obtain ⟨step, w, hstep⟩ := Json.not_isBare_iff.1 hbare
      rw [follow_succ_of_unwraps hstep, follow_zero_of_unwraps hstep]
      exact n.fst_follow_zero_eq_none fun hw => h (hstep.isStepsFromScene hw)
  | succ budget ih =>
    by_cases hbare : v.IsBare
    · exact n.fst_follow_of_isBare hbare _ _
    · obtain ⟨step, w, hstep⟩ := Json.not_isBare_iff.1 hbare
      rw [follow_succ_of_unwraps hstep, follow_succ_of_unwraps hstep]
      exact ih fun hw => h (hstep.isStepsFromScene hw)

/-! ### The two ways -/

theorem ofPayloadText_of_parse? {text : String} {v : Json} (h : Json.parse? text = some v) :
    Json.ofPayloadText text = v := by
  rw [Json.ofPayloadText, h, Option.getD_some]

/-- From a text that is a value as a whole, one step of the budget goes to that value. -/
theorem scene_normalizeText_of_parse? (n : Normalizer) {text : String} {v : Json}
    (h : Json.parse? text = some v) :
    (n.normalizeText text).scene = (n.follow (maxUnwrappings - 1) v).1 := by
  change (n.follow (maxUnwrappings - 1 + 1) (.text text)).1 = _
  rw [follow_succ_of_unwraps (unwraps_of_parse? h)]

/-- **The two ways to understand a text agree.** Take the value that a text is, or the text itself
if it is none, as a payload: it comes to the same scene as the text does, or neither comes to any.
The only exception are texts that are a value from which exactly sixteen steps lead to a scene, be
they into objects or into texts: that value comes to a scene, and the text does not. -/
theorem textEntries_agree (n : Normalizer) (text : String) :
    (¬IsAtLimit text →
      (n.normalize (.ofPayloadText text)).scene = (n.normalizeText text).scene) ∧
    (IsAtLimit text →
      (n.normalize (.ofPayloadText text)).scene.isSome ∧ (n.normalizeText text).scene = none) := by
  constructor
  · intro hlimit
    cases hparse : Json.parse? text with
    | none => rw [Json.ofPayloadText, hparse, Option.getD_none, normalizeText]
    | some v =>
      rw [ofPayloadText_of_parse? hparse, n.scene_normalizeText_of_parse? hparse]
      exact n.fst_follow_succ fun hv => hlimit ⟨v, hparse, hv⟩
  · rintro ⟨v, hparse, steps, w, hsteps, hbare, hshape, hlen⟩
    constructor
    · obtain ⟨s, last, hn, -⟩ :=
        normalize_of_unwrapsBy_of_hasSceneShape n hsteps hbare (Nat.le_of_eq hlen) hshape
      rw [ofPayloadText_of_parse? hparse, hn, Option.isSome_some]
    · have hdeep : n.follow (maxUnwrappings - 1) v = _ := follow_tooDeep hsteps hlen
      rw [n.scene_normalizeText_of_parse? hparse, hdeep]

/-! ### A scene inside visualizations -/

/-- A list without layers inside some visualizations. -/
def wrapped : Nat → Json
  | 0 => .array []
  | count + 1 => .object [("visualization", wrapped count)]

/-- The text before a visualization. -/
def opening : List Char :=
  "\x7b\"visualization\":".toList

/-- The text of a list without layers inside some visualizations. -/
def wrappedText : Nat → List Char
  | 0 => ['[', ']']
  | count + 1 => opening ++ wrappedText count ++ ['\x7d']

theorem unwrapsBy_wrapped (count : Nat) :
    UnwrapsBy (wrapped count) (List.replicate count .visualization) (.array []) := by
  induction count with
  | zero => exact .nil _
  | succ count ih =>
    have htruthy : (wrapped count).isTruthy := by cases count <;> rfl
    exact .cons (.visualization rfl htruthy) ih

theorem isBare_array (items : List Json) : (Json.array items).IsBare := by
  rintro step w ⟨⟩

theorem isStepsFromScene_wrapped (count : Nat) : (wrapped count).IsStepsFromScene count :=
  ⟨_, _, unwrapsBy_wrapped count, isBare_array [], .array [], List.length_replicate⟩

open Json.Reader in
/-- The reader takes the text of a wrapped list as one value, wherever a value may stand. -/
theorem run_wrappedText {count : Nat} {inside : List Json.Container}
    (h : inside.length + count < Json.maxDepth) :
    run ⟨inside, .value⟩ (wrappedText count) = some (complete (wrapped count) inside) := by
  induction count generalizing inside with
  | zero =>
    have hopen : step ⟨inside, .value⟩ '[' = enter (.array []) .firstItem inside := rfl
    have hclose : step ⟨.array [] :: inside, .firstItem⟩ ']' = some (complete (.array []) inside) :=
      rfl
    rw [wrappedText, run_cons, hopen, enter_of_lt _ _ h, Option.bind_some, run_cons, hclose]
    rfl
  | succ count ih =>
    have hopen : run ⟨inside, .value⟩ opening =
        some ⟨.object [] "visualization" :: inside, .value⟩ := by
      have hlt : inside.length < Json.maxDepth := by omega
      have hbrace : step ⟨inside, .value⟩ '\x7b' = enter (.object [] "") .firstName inside := rfl
      have hopening : opening = '\x7b' :: "\"visualization\":".toList := by cbv
      rw [hopening, run_cons, hbrace, enter_of_lt _ _ hlt, Option.bind_some]
      cbv
    have hinside : (Json.Container.object [] "visualization" :: inside).length + count <
        Json.maxDepth := by
      rw [List.length_cons]
      omega
    rw [wrappedText, run_append, run_append, hopen, Option.bind_some, ih hinside]
    rfl

/-- At the limit the two ways part, and for a text that holds another text they do not. -/
theorem textEntries_agree_wrapped :
    ((default : Normalizer).normalize (.ofPayloadText "\"see: [true]\"")).scene =
        ((default : Normalizer).normalizeText "\"see: [true]\"").scene ∧
      ((default : Normalizer).normalize
        (.ofPayloadText (String.ofList (wrappedText 16)))).scene.isSome ∧
      ((default : Normalizer).normalizeText (String.ofList (wrappedText 16))).scene = none := by
  have hparse : Json.parse? (String.ofList (wrappedText 16)) = some (wrapped 16) := by
    rw [Json.parse?, String.toList_ofList, Json.parseChars?, Json.Reader.start,
      run_wrappedText (by decide)]
    rfl
  have htext : Json.parse? "\"see: [true]\"" = some (.text "see: [true]") := by cbv
  have hfind : Extraction.find? "see: [true]" = some (.array [.bool true], .bareArray) := by cbv
  -- The only steps from the text are to the list of one entry.
  have hlimit : ¬IsAtLimit "\"see: [true]\"" := by
    rintro ⟨v, hv, steps, w, hsteps, -, -, hlen⟩
    obtain rfl : Json.text "see: [true]" = v := Option.some.inj (htext.symm.trans hv)
    cases hsteps with
    | nil => cases hlen
    | cons h rest =>
      cases h with
      | text h =>
        rw [hfind] at h
        cases h
        cases rest with
        | nil => cases hlen
        | cons h rest => exact isBare_array _ _ _ h
  exact ⟨(textEntries_agree default _).1 hlimit,
    (textEntries_agree default _).2 ⟨_, hparse, isStepsFromScene_wrapped 16⟩⟩

end Normalizer

end SceneLoop
