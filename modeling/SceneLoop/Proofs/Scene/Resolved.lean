import SceneLoop.Proofs.Number.Order
import SceneLoop.Proofs.Scene.Props
import SceneLoop.Scene.Layer

/-!
# Which animation decides a property

The animations of a layer are applied in order, so at a scene time a property has the value of the
last animation under one of its names that has an effect then, and its own value if there is none.
An animation that has not started, or whose span is not positive, may as well be missing.

## Main definitions

* `PropKey.hasName` : the names that stand for a key.
* `Animation.lastValue?` : the value of the last animation under some names that has an effect.

## Main results

* `Layer.view_foldl_animate` : what some animations leave of anything that each of them changes
  under some names only.
* `Layer.propsAt_lastWins` : the last animation that has an effect decides, and nothing else
  changes.
-/

namespace SceneLoop

/-- Whether a name stands for a key, be it as another spelling. -/
def PropKey.hasName (k : PropKey) (name : String) : Bool :=
  (lookup name).any fun found => found.1 = k

theorem PropKey.hasName_of_lookup {name : String} {l : PropKey} {isAlias : Bool}
    (h : lookup name = some (l, isAlias)) (k : PropKey) : k.hasName name = decide (l = k) := by
  rw [hasName, h, Option.any_some]

theorem PropKey.hasName_of_lookup_eq_none {name : String} (h : lookup name = none) (k : PropKey) :
    k.hasName name = false := by
  rw [hasName, h, Option.any_none]

namespace Animation

/-- The value of an animation under some names, if it has an effect. -/
def valueUnder? (named : String → Bool) (t : Float) (a : Animation) : Option Float :=
  if named a.property then a.valueAt t else none

/-- The value of the last animation under some names that has an effect. -/
def lastValue? (named : String → Bool) (t : Float) (as : List Animation) : Option Float :=
  (as.filterMap (valueUnder? named t)).getLast?

theorem lastValue?_cons (named : String → Bool) (t : Float) (a : Animation) (as : List Animation) :
    lastValue? named t (a :: as) = (lastValue? named t as).or (valueUnder? named t a) := by
  rw [lastValue?, lastValue?, List.filterMap_cons]
  cases valueUnder? named t a with
  | none => rw [Option.or_none]
  | some v => rw [List.getLast?_cons, ← Option.or_some]

theorem lastValue?_none (t : Float) (as : List Animation) :
    lastValue? (fun _ => false) t as = none := by
  induction as with
  | nil => rfl
  | cons a as ih => rw [lastValue?_cons, ih, valueUnder?, if_neg Bool.false_ne_true, Option.or_none]

theorem valueAt_of_isInert {a : Animation} (h : a.isInert) (t : Float) : a.valueAt t = none := by
  rw [valueAt, h, Bool.true_or, if_pos rfl]

theorem valueAt_of_lt {a : Animation} {t : Float} (h : t < a.start) : a.valueAt t = none := by
  rw [valueAt, if_pos]
  simp [h]

theorem isInert_of_le {a : Animation} (h : a.finish ≤ a.start) : a.isInert := by
  simp [isInert, Binary64.not_lt_of_le h]

end Animation

/-! ### Properties that a number is given to -/

namespace Props

theorem get?_setNumber (p : Props) (name : String) (x : Float) (k : PropKey) :
    (p.setNumber name x).get? k = if k.hasName name then some (.number x) else p.get? k := by
  rw [setNumber]
  cases h : PropKey.lookup name with
  | none => rw [PropKey.hasName_of_lookup_eq_none h, if_neg Bool.false_ne_true]; rfl
  | some found =>
    obtain ⟨l, isAlias⟩ := found
    simp [PropKey.hasName_of_lookup h, get?_set]

theorem get?_extra_setNumber (p : Props) (name other : String) (x : Float) :
    (p.setNumber name x).extra.get? other =
      if PropKey.lookup name = none ∧ name = other then some (.ofDouble x)
      else p.extra.get? other := by
  rw [setNumber]
  cases h : PropKey.lookup name with
  | none => simp [get?_extra_keep]
  | some found => rw [if_neg (by simp)]; rfl

theorem sorted_extra_setNumber {p : Props} (h : p.extra.Sorted) (name : String) (x : Float) :
    (p.setNumber name x).extra.Sorted := by
  rw [setNumber]
  split
  · exact h
  · exact h.insert name _

end Props

/-! ### Animated properties -/

namespace Layer

open Animation (valueUnder? lastValue?)

theorem animate_of_valueAt_eq_none {a : Animation} {t : Float} (h : a.valueAt t = none)
    (p : Props) : animate t p a = p := by
  rw [animate, h]

/-- What an animation leaves of the value of a key. -/
theorem get?_animate (t : Float) (p : Props) (a : Animation) (k : PropKey) :
    (animate t p a).get? k =
      ((valueUnder? k.hasName t a).map PropValue.number).or (p.get? k) := by
  rw [animate, valueUnder?]
  cases a.valueAt t with
  | none => simp
  | some x => cases h : k.hasName a.property <;> simp [Props.get?_setNumber, h]

/-- What an animation leaves of another field, whose name stands for no key. -/
theorem get?_extra_animate {name : String} (hname : PropKey.lookup name = none) (t : Float)
    (p : Props) (a : Animation) :
    (animate t p a).extra.get? name =
      ((valueUnder? (fun other => other = name) t a).map Json.ofDouble).or
        (p.extra.get? name) := by
  rw [animate, valueUnder?]
  cases a.valueAt t with
  | none => simp
  | some x =>
    by_cases h : a.property = name
    · simp [Props.get?_extra_setNumber, h, hname]
    · simp [Props.get?_extra_setNumber, h]

/-- An animation leaves a field alone whose name stands for a key. -/
theorem get?_extra_animate_of_known {name : String} (hname : (PropKey.lookup name).isSome)
    (t : Float) (p : Props) (a : Animation) :
    (animate t p a).extra.get? name = p.extra.get? name := by
  rw [animate]
  split
  · rw [Props.get?_extra_setNumber, if_neg]
    rintro ⟨hnone, rfl⟩
    simp [hnone] at hname
  · rfl

/-- What some animations leave of anything that each of them changes under some names only. -/
theorem view_foldl_animate {β : Type} (view : Props → Option β) (f : Float → β)
    (named : String → Bool) {t : Float}
    (h : ∀ p a, view (animate t p a) = ((valueUnder? named t a).map f).or (view p))
    (as : List Animation) (p : Props) :
    view (as.foldl (animate t) p) = ((lastValue? named t as).map f).or (view p) := by
  induction as generalizing p with
  | nil => rfl
  | cons a as ih =>
    rw [List.foldl_cons, ih, h, Animation.lastValue?_cons, Option.map_or, Option.or_assoc]

/-- An animation without an effect may as well be missing. -/
theorem foldl_animate_of_valueAt_eq_none {a : Animation} {t : Float} (h : a.valueAt t = none)
    (before after : List Animation) (p : Props) :
    (before ++ a :: after).foldl (animate t) p = (before ++ after).foldl (animate t) p := by
  rw [List.foldl_append, List.foldl_append, List.foldl_cons, animate_of_valueAt_eq_none h]

theorem sorted_extra_propsAt {l : Layer} (h : l.props.extra.Sorted) (t : Float) :
    (l.propsAt t).extra.Sorted := by
  refine List.foldlRecOn (motive := fun p : Props => p.extra.Sorted) _ _ h fun p hp a _ => ?_
  rw [animate]
  split
  · exact Props.sorted_extra_setNumber hp _ _
  · exact hp

/-- **The last animation that has an effect decides.** At any scene time the value of a key is that
of the last animation under one of its names that has an effect, and the layer's own value if there
is none.  The same holds of another field under a name that stands for no key, where a value that is
not finite is written as null.  Nothing else changes: fields whose name stands for a key stay as
they are, and each name keeps one field at most.  An animation that has not started, or that does
not end after its start, may as well be missing. -/
theorem propsAt_lastWins (l : Layer) (t : Float) :
    (∀ k : PropKey, (l.propsAt t).get? k =
      ((lastValue? k.hasName t l.animations).map PropValue.number).or (l.props.get? k)) ∧
    (∀ name, PropKey.lookup name = none → (l.propsAt t).extra.get? name =
      ((lastValue? (fun other => other = name) t l.animations).map Json.ofDouble).or
        (l.props.extra.get? name)) ∧
    (∀ name, (PropKey.lookup name).isSome →
      (l.propsAt t).extra.get? name = l.props.extra.get? name) ∧
    (l.props.extra.Sorted → (l.propsAt t).extra.Sorted) ∧
    (∀ before a after, l.animations = before ++ a :: after → t < a.start ∨ a.finish ≤ a.start →
      l.propsAt t = { l with animations := before ++ after }.propsAt t) := by
  refine ⟨fun k => ?_, fun name hname => ?_, fun name hname => ?_, fun h => ?_, ?_⟩
  · exact view_foldl_animate (fun p => p.get? k) _ _ (fun p a => get?_animate t p a k) _ _
  · exact view_foldl_animate (fun p => p.extra.get? name) _ _ (get?_extra_animate hname t) _ _
  · have hview := view_foldl_animate (fun p => p.extra.get? name) Json.ofDouble (fun _ => false)
      (fun p a => get?_extra_animate_of_known hname t p a) l.animations l.props
    rw [Animation.lastValue?_none] at hview
    exact hview
  · exact sorted_extra_propsAt h t
  · intro before a after hanimations hrest
    have hnone : a.valueAt t = none := by
      rcases hrest with hstart | hspan
      · exact Animation.valueAt_of_lt hstart
      · exact Animation.valueAt_of_isInert (Animation.isInert_of_le hspan) t
    rw [propsAt, hanimations]
    exact foldl_animate_of_valueAt_eq_none hnone before after l.props

/-- A text that grows under both names of its size, and turns.  A last growth is yet to come, and
one would end before it starts. -/
def growing : Layer :=
  ⟨.text, .ofFields [("fontSize", .number (.integer 10)), ("width", .array [])] [],
    [⟨"fontSize", 0, 1000, 10, 20⟩, ⟨"font-size", 0, 500, 30, 40⟩, ⟨"rotation", 0, 1000, 0, 90⟩,
      ⟨"fontSize", 2000, 3000, 1, 2⟩, ⟨"fontSize", 500, 0, 5, 6⟩]⟩

theorem propsAt_lastWins_growing :
    (growing.propsAt 1000).get? .fontSize = some (.number 40) ∧
      (growing.propsAt 1000).get? .width = none ∧
      PropKey.lookup "rotation" = none ∧
      (growing.propsAt 1000).extra.get? "rotation" = some (.ofDouble 90) ∧
      (PropKey.lookup "width").isSome ∧
      (growing.propsAt 1000).extra.get? "width" = some (.array []) ∧
      growing.props.extra.Sorted ∧ (growing.propsAt 1000).extra.Sorted ∧
      growing.propsAt 1000 =
        { growing with animations := growing.animations.take 4 }.propsAt 1000 := by
  obtain ⟨hknown, hother, hkept, hsorted, hrest⟩ := propsAt_lastWins growing 1000
  have hextra : growing.props.extra.Sorted := List.pairwise_singleton _ _
  refine ⟨?_, ?_, rfl, ?_, rfl, ?_, hextra, hsorted hextra, ?_⟩
  · rw [hknown]
    rfl
  · rw [hknown]
    rfl
  · rw [hother _ rfl]
    rfl
  · rw [hkept _ rfl]
    rfl
  · exact hrest (growing.animations.take 4) _ [] rfl (.inr (by decide))

end Layer

end SceneLoop
