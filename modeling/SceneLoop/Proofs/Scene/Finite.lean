import Mathlib
import SceneLoop.Proofs.Number.Bounds
import SceneLoop.Proofs.Payload.Unwrapping
import SceneLoop.Proofs.Scene.Written

/-!
# Finite numbers in layers

What is read from a payload is finite, but animations compute new numbers.  While an animation runs,
its value is the first one and a share of the whole change.  The share is between zero and one, so
the value is finite if the whole change is, and if the first value with all of it is.  Then the
properties of a layer have finite numbers at every scene time.

## Main definitions

* `Props.IsFinite` : properties whose numbers are finite.
* `Animation.InRange` : an animation whose whole change is a finite double.

## Main results

* `Animation.isFinite_valueAt` : the values of an animation are finite.
* `Layer.IsFinite.propsAt` : so are the properties of a layer at a scene time.
* `Normalizer.isFinite_of_normalize` : the numbers in the scene of a payload are finite.
-/

namespace SceneLoop

open Binary64

/-! ### Animations -/

namespace Animation

/-- An animation whose whole change is a finite double, also when it is added to the first value. -/
structure InRange (a : Animation) : Prop where
  change : (a.final - a.initial).isFinite
  sum : (a.initial + (a.final - a.initial)).isFinite

variable {a : Animation} {t v : Float}

/-- An animation that is read from a payload has a finite end. -/
theorem IsRead.isFinite_finish (h : a.IsRead) : a.finish.isFinite := by
  rcases h.finish with hfinish | hfinish
  · exact hfinish
  · have hspan : HasValue defaultSpan 1000 := by
      exact_mod_cast hasValue_ofNat (n := 1000) (by decide)
    have hsum := isNearest_add h.start hspan.isFinite
    rw [hspan.value_eq] at hsum
    rw [hfinish]
    exact hsum.isFinite_of_abs_le h.start (by norm_num) (abs_add_le _ _)

/-- The share of the span of an animation that has passed is between zero and one. -/
theorem IsRead.share_bounds (h : a.IsRead) (ht : t.isFinite) (hbound : |value t| ≤ 2 ^ (64 : ℤ))
    (hstart : value a.start ≤ value t) (hfinish : value t < value a.finish) :
    ((t - a.start) / (a.finish - a.start)).isFinite ∧
      0 ≤ value ((t - a.start) / (a.finish - a.start)) ∧
        value ((t - a.start) / (a.finish - a.start)) ≤ 1 := by
  have hpart := isNearest_sub ht h.start
  have hwhole := isNearest_sub h.isFinite_finish h.start
  have hfinite : (t - a.start).isFinite :=
    hpart.isFinite_of_abs_le h.start hbound (by
      rw [add_comm]
      exact abs_sub _ _)
  have hzero : 0 ≤ value (t - a.start) := by
    rw [hpart.value_eq]
    exact rounded_nonneg (sub_nonneg.2 hstart)
  have hpos : 0 < value (a.finish - a.start) :=
    value_sub_pos h.start h.isFinite_finish (hstart.trans_lt hfinish)
  have hle : value (t - a.start) ≤ value (a.finish - a.start) :=
    hpart.value_le hwhole (by linarith)
  exact div_bounds hfinite hwhole.isNaN_eq_false hzero hpos hle

/-- The values of an animation are finite. -/
theorem isFinite_valueAt (h : a.IsRead) (hrange : a.InRange) (ht : t.isFinite)
    (hbound : |value t| ≤ 2 ^ (64 : ℤ)) (hv : a.valueAt t = some v) : v.isFinite := by
  have hnumber := isNaN_of_isFinite ht
  have hstart := isNaN_of_isFinite h.start
  have hfinish := isNaN_of_isFinite h.isFinite_finish
  rw [valueAt] at hv
  split at hv
  · cases hv
  · next heffect =>
    have hle : value a.start ≤ value t := by
      rw [← not_lt, ← lt_iff_value hnumber hstart]
      exact fun hlt => heffect (by simp [hlt])
    split at hv
    · cases hv
      exact h.final
    · next hrunning =>
      cases hv
      have hlt : value t < value a.finish := by
        rwa [le_iff_value hfinish hnumber, not_le] at hrunning
      obtain ⟨hfinite, hzero, hone⟩ := h.share_bounds ht hbound hle hlt
      exact isFinite_add_mul h.initial hrange.change hrange.sum hfinite hzero hone

end Animation

/-! ### Properties -/

namespace Props

/-- Properties whose numbers are finite. -/
def IsFinite (p : Props) : Prop :=
  ∀ k v, p.get? k = some v → v.IsRead

variable {p : Props}

theorem isFinite_empty : empty.IsFinite := by
  intro k v h
  rw [get?_empty] at h
  cases h

theorem IsFinite.set (h : p.IsFinite) (k : PropKey) {v : PropValue} (hv : v.IsRead) :
    (p.set k v).IsFinite := by
  intro l w hw
  rw [get?_set] at hw
  split at hw
  · cases hw
    exact hv
  · exact h l w hw

theorem IsFinite.keep (h : p.IsFinite) (name : String) (value : Json) :
    (p.keep name value).IsFinite :=
  h

theorem IsFinite.takeField (h : p.IsFinite) (name : String) (value : Json) :
    (p.takeField name value).IsFinite := by
  rw [Props.takeField]
  split
  · next hvalue =>
    split
    · exact h
    · exact h.set _ (PropValue.isRead_of_ofJson? hvalue)
  · split
    · exact h
    · exact h.keep _ _

/-- The numbers in the fields of an object are finite. -/
theorem isFinite_ofFields (fields : Fields) (excluded : List String) :
    (ofFields fields excluded).IsFinite := by
  rw [ofFields_eq_foldl]
  refine List.foldlRecOn _ _ isFinite_empty fun p h f _ => h.takeField f.1 f.2

theorem IsFinite.setNumber (h : p.IsFinite) (name : String) {x : Float} (hx : x.isFinite) :
    (p.setNumber name x).IsFinite := by
  rw [Props.setNumber]
  split
  · exact h.set _ hx
  · exact h.keep _ _

theorem IsFinite.number? (h : p.IsFinite) {k : PropKey} {x : Float} (hx : p.number? k = some x) :
    x.isFinite := by
  obtain ⟨v, hv, hnumber⟩ := Option.bind_eq_some_iff.1 hx
  cases v with
  | number y =>
    cases hnumber
    exact h k _ hv
  | text s => exact numberOfText?_isFinite hnumber
  | bool b => cases hnumber

end Props

/-! ### Layers -/

namespace Layer

/-- A layer with finite numbers, as those of payloads are. -/
structure IsFinite (l : Layer) : Prop where
  props : l.props.IsFinite
  animations : ∀ a ∈ l.animations, a.IsRead

variable {l : Layer} {t : Float}

theorem isFinite_ofKind (kind : LayerKind) : (ofKind kind).IsFinite :=
  ⟨Props.isFinite_empty, by simp [ofKind]⟩

/-- The numbers of a layer in a payload are finite. -/
theorem isFinite_ofFields (fields : Fields) : (ofFields fields).IsFinite := by
  refine ⟨?_, fun _ => isRead_of_mem_animationsOf⟩
  rw [ofFields, propsOf]
  split
  · exact Props.isFinite_ofFields _ _
  · exact Props.isFinite_ofFields _ _
  · exact Props.isFinite_ofFields _ _
  · exact Props.isFinite_empty

/-- The properties of a layer have finite numbers at every scene time, if no animation leaves the
range. -/
theorem IsFinite.propsAt (h : l.IsFinite) (hrange : ∀ a ∈ l.animations, a.InRange)
    (ht : t.isFinite) (hbound : |value t| ≤ 2 ^ (64 : ℤ)) : (l.propsAt t).IsFinite := by
  refine List.foldlRecOn _ _ h.props fun p hp a ha => ?_
  rw [animate]
  split
  · next v hv =>
    exact hp.setNumber _ (Animation.isFinite_valueAt (h.animations a ha) (hrange a ha) ht hbound hv)
  · exact hp

end Layer

/-! ### Payloads -/

namespace Normalizer

variable {n : Normalizer} {s : Scene}

theorem isFinite_entryLayer (v : Json) : (entryLayer v).IsFinite := by
  cases v with
  | object fields => exact Layer.isFinite_ofFields fields
  | null | bool | number | text | array => exact Layer.isFinite_ofKind _

theorem isFinite_of_recognize {shape : Shape} {step : TraceStep}
    (h : n.recognize shape = .ok (s, step)) : ∀ l ∈ s.layers, l.IsFinite := by
  intro l hl
  cases shape with
  | missing | text | wrapped | answerWrapped | unrecognized => cases h
  | layerArray items =>
    cases h
    obtain ⟨v, -, rfl⟩ := List.mem_map.1 hl
    exact isFinite_entryLayer v
  | singleLayer fields =>
    cases h
    obtain rfl := List.mem_singleton.1 hl
    exact Layer.isFinite_ofFields fields
  | canonical fields items =>
    cases h
    obtain ⟨entry, -, rfl⟩ := List.mem_map.1 hl
    exact Layer.isFinite_ofFields entry

/-- The numbers in the scene of a payload are finite. -/
theorem isFinite_of_normalize {payload : Json} (h : (n.normalize payload).scene = some s) :
    ∀ l ∈ s.layers, l.IsFinite := by
  obtain ⟨v, step, hv⟩ := exists_recognize_of_normalize h
  exact isFinite_of_recognize hv

end Normalizer

end SceneLoop
