import SceneLoop.Proofs.Json.Reading
import SceneLoop.Proofs.Number.Whole
import SceneLoop.Proofs.Payload.Unwrapping
import SceneLoop.Proofs.Scene.Written

/-!
# A scene is read back from what it is written as

Every step from a payload to the value inside keeps objects sorted, so all layers of the scene of a
payload have the invariants of what is read.  Its period is a natural number that some double is
rounded to, or the default.  Such a scene is read back, without another step and without a loss.

## Main definitions

* `Scene.IsRead` : the invariants of a scene that is read.

## Main results

* `Normalizer.isRead_of_normalize` : the scene of a payload has the invariants.
* `Normalizer.normalize_toJson` : a scene is read back from what it is written as.
-/

namespace SceneLoop

/-! ### Sorted payloads -/

theorem Extraction.isSorted_of_find? {s : String} {v : Json} {strategy : Strategy}
    (h : find? s = some (v, strategy)) : v.IsSorted := by
  rw [find?, findChars?] at h
  split at h
  · next found hfound =>
    cases h
    obtain ⟨candidate, -, hattempt⟩ := List.exists_of_findSome?_eq_some hfound
    obtain ⟨w, hw, hpair⟩ := Option.map_eq_some_iff.1 hattempt
    obtain ⟨cs, -, hparse⟩ := Option.bind_eq_some_iff.1 hw
    cases hpair
    exact Json.isSorted_of_parseChars? hparse
  · obtain ⟨w, hw, hpair⟩ := Option.map_eq_some_iff.1 h
    obtain ⟨cs, -, hparse⟩ := List.exists_of_findSome?_eq_some hw
    cases hpair
    exact Json.isSorted_of_parseChars? hparse

/-- The value inside a sorted value is sorted. -/
theorem Unwraps.isSorted {u v : Json} {step : Unwrapping} (h : Unwraps u step v)
    (hu : u.IsSorted) : v.IsSorted := by
  cases h with
  | text hfind => exact Extraction.isSorted_of_find? hfind
  | visualization hget _ => exact hu.of_get? hget
  | answerVisualization _ hanswer hget _ => exact (hu.of_get? hanswer).of_get? hget

/-! ### Periods -/

namespace Scene

/-- A period that comes back from a double. -/
def Survives (period : UInt64) : Prop :=
  Binary64.nearestNatural (Float.ofInt period.toNat) = period

theorem survives_positive {period : UInt64} (h : Survives period) : Survives (positive period) := by
  rw [positive]
  split
  · rw [Survives]
    decide
  · exact h

theorem survives_periodOf (value : Option Json) {default : UInt64} (h : Survives default) :
    Survives (periodOf value default) := by
  rw [periodOf]
  split
  · split
    · exact Binary64.nearestNatural_ofInt_nearestNatural _
    · exact h
  · exact h

/-- A period is read back from what it is written as. -/
theorem periodOf_ofNat {period : UInt64} (h : Survives period) (hne : period ≠ 0)
    (default : UInt64) : periodOf (some (Json.ofNat period.toNat)) default = period := by
  have hfinite : (Float.ofInt period.toNat).isFinite :=
    Binary64.isFinite_ofInt_of_nearestNatural h
  have hpos : 1 ≤ period := by
    rw [UInt64.le_iff_toNat_le]
    exact Nat.one_le_iff_ne_zero.2 fun h => hne (UInt64.toNat_inj.1 h)
  have hperiod : Binary64.nearestNatural (Float.ofInt period.toNat) = period := h
  simp [periodOf, Json.ofNat, Json.coerceNumber, Json.Number.toDouble, hfinite, hperiod, hpos]

/-- The scenes of payloads. -/
structure IsRead (s : Scene) : Prop where
  period : Survives s.period
  layers : ∀ l ∈ s.layers, l.IsRead

theorem isRead_ofLayers {period : UInt64} {layers : List Layer} (h : Survives period)
    (hlayers : ∀ l ∈ layers, l.IsRead) : (ofLayers period layers).IsRead :=
  ⟨survives_positive h, hlayers⟩

end Scene

namespace Normalizer

theorem isRead_entryLayer {v : Json} (h : v.IsSorted) : (entryLayer v).IsRead := by
  cases v with
  | object fields => exact Layer.isRead_ofFields h
  | null | bool | number | text | array => exact Layer.isRead_ofKind (by cbv)

theorem isRead_of_recognize {n : Normalizer} (hn : Scene.Survives n.defaultPeriod) {v : Json}
    (hv : v.IsSorted) {s : Scene} {step : TraceStep}
    (h : n.recognize (Shape.of v) = .ok (s, step)) : s.IsRead := by
  cases v with
  | null | bool | number | text => cases h
  | array items =>
    cases h
    refine Scene.isRead_ofLayers hn fun l hl => ?_
    obtain ⟨w, hw, rfl⟩ := List.mem_map.1 hl
    exact isRead_entryLayer (Json.isSorted_array.1 hv w hw)
  | object fields =>
    simp only [Shape.of, Shape.ofFields] at h
    split at h
    · cases h
    split at h
    · cases h
    rw [Shape.ofPlainFields] at h
    split at h
    · cases h
      refine Scene.isRead_ofLayers (Scene.survives_periodOf _ hn) fun l hl => ?_
      obtain rfl := List.mem_singleton.1 hl
      exact Layer.isRead_ofFields hv
    split at h
    · next items hitems =>
      cases h
      refine Scene.isRead_ofLayers (Scene.survives_periodOf _ hn) fun l hl => ?_
      obtain ⟨entry, hentry, rfl⟩ := List.mem_map.1 hl
      obtain ⟨w, hw, hfields⟩ := List.mem_filterMap.1 hentry
      have hsorted := Json.isSorted_array.1 (hv.of_get? hitems) w hw
      cases w <;> cases hfields
      exact Layer.isRead_ofFields hsorted
    · cases h
    · cases h
    · cases h

theorem isRead_of_isBare {n : Normalizer} (hn : Scene.Survives n.defaultPeriod) {v : Json}
    (hv : v.IsSorted) (hbare : v.IsBare) {budget : Nat} {s : Scene}
    (h : (n.follow budget v).1 = some s) : s.IsRead := by
  rw [follow_of_isBare hbare] at h
  split at h
  · next scene step hok =>
    cases h
    exact isRead_of_recognize hn hv hok
  · cases h

/-- The scene that a value leads to has the invariants: so do all values on the way. -/
theorem isRead_of_follow {n : Normalizer} (hn : Scene.Survives n.defaultPeriod) {budget : Nat}
    {v : Json} (hv : v.IsSorted) {s : Scene} (h : (n.follow budget v).1 = some s) :
    s.IsRead := by
  induction budget generalizing v with
  | zero =>
    by_cases hbare : v.IsBare
    · exact isRead_of_isBare hn hv hbare h
    · obtain ⟨step, w, hstep⟩ := Json.not_isBare_iff.1 hbare
      rw [follow_zero_of_unwraps hstep] at h
      cases h
  | succ budget ih =>
    by_cases hbare : v.IsBare
    · exact isRead_of_isBare hn hv hbare h
    · obtain ⟨step, w, hstep⟩ := Json.not_isBare_iff.1 hbare
      rw [follow_succ_of_unwraps hstep] at h
      exact ih (hstep.isSorted hv) h

/-- The scene of a payload has the invariants of what is read. -/
theorem isRead_of_normalize {n : Normalizer} (hn : Scene.Survives n.defaultPeriod) {p : Json}
    (hp : p.IsSorted) {s : Scene} (h : (n.normalize p).scene = some s) : s.IsRead :=
  isRead_of_follow hn hp h

end Normalizer

/-! ### Written scenes -/

namespace Scene

/-- The fields of a written scene, each of them sorted. -/
def sortedFields (s : Scene) : Fields :=
  [("duration", .ofNat s.period.toNat), ("layers", .array (s.layers.map fun l => l.toJson.sorted))]

theorem sorted_toJson (s : Scene) : s.toJson.sorted = .object s.sortedFields := by
  have hsorted : s.sortedFields.Sorted := by
    simp only [sortedFields, Fields.Sorted, List.pairwise_cons, List.mem_singleton, forall_eq,
      List.not_mem_nil, false_imp_iff, implies_true, List.Pairwise.nil, and_true]
    decide
  rw [← Fields.ofList_eq_self hsorted]
  simp [toJson, sortedFields, Json.sorted, Json.sortedFields, Json.sortedItems_eq_map, Json.ofNat,
    Function.comp_def]

theorem shape_of_sortedFields (s : Scene) :
    Shape.of (.object s.sortedFields) =
      .canonical s.sortedFields (s.layers.map fun l => l.toJson.sorted) := by
  rfl

/-- The layers of a payload are read back from what they are written as. -/
theorem layers_of_toJson {layers : List Layer} (h : ∀ l ∈ layers, l.IsRead)
    (hclash : ∀ l ∈ layers, l.props.NoClash) :
    ((layers.map fun l => l.toJson.sorted).filterMap Json.fields?).map Layer.ofFields = layers := by
  induction layers with
  | nil => rfl
  | cons l rest ih =>
    obtain ⟨hl, hrest⟩ := List.forall_mem_cons.1 h
    obtain ⟨hc, hcrest⟩ := List.forall_mem_cons.1 hclash
    rw [List.map_cons, Layer.sorted_toJson hl, List.filterMap_cons_some (by rfl), List.map_cons,
      Layer.ofFields_sortedFields hl hc, ih hrest hcrest]

theorem ofLayers_period (s : Scene) : ofLayers s.period s.layers = s := by
  have hperiod : positive s.period = s.period := if_neg s.period_ne_zero
  obtain ⟨period, layers, hne⟩ := s
  simp only [ofLayers]
  congr 1

end Scene

namespace Normalizer

/-- **A scene is read back from what it is written as.** Let the objects of a payload be sorted, as
those of a payload that was read are, and let the default period come back from a double.  If no
other field of a layer has the name of a key with a value, any normalizer gives the same scene for
what the scene of the payload is written as, and nothing is unwrapped or dropped. -/
theorem normalize_toJson (n m : Normalizer) {p : Json} (hp : p.IsSorted)
    (hn : Binary64.nearestNatural (Float.ofInt n.defaultPeriod.toNat) = n.defaultPeriod)
    {s : Scene} (hs : (n.normalize p).scene = some s)
    (hclash : ∀ l ∈ s.layers, ∀ k : PropKey, (l.props.get? k).isSome →
      l.props.extra.get? k.name = none) :
    m.normalize s.toJson.sorted = ⟨some s, ⟨"object", [.canonical s.layers.length 0]⟩⟩ := by
  have hread : s.IsRead := isRead_of_normalize hn hp hs
  have hlayers := Scene.layers_of_toJson hread.layers hclash
  have hperiod : Scene.periodOf (s.sortedFields.get? "duration") m.defaultPeriod = s.period :=
    Scene.periodOf_ofNat hread.period s.period_ne_zero m.defaultPeriod
  have hbare : (Json.object s.sortedFields).IsBare :=
    Json.isBare_iff.2 (by rw [s.shape_of_sortedFields]; rfl)
  rw [s.sorted_toJson, normalize, follow_of_isBare hbare, s.shape_of_sortedFields]
  simp only [recognize, hlayers, hperiod, Scene.ofLayers_period, List.length_map, Nat.sub_self]
  rfl

/-- A list of one layer, with its properties beside its type, another spelling of a known name, an
unknown name and an animation without an end. -/
def flatLabel : Json :=
  .array [.object [
    ("animations", .array [.object [("property", .text "x"), ("start", .text "5")]]),
    ("font-size", .number (.integer 12)), ("note", .array [.null]), ("type", .text "Label")]]

theorem isSorted_flatLabel : flatLabel.IsSorted := by
  simp only [flatLabel, Json.IsSorted, Json.AreSortedItems, Json.AreSortedFields, and_true,
    Fields.Sorted]
  decide

/-- The flat label is read back as a layer with its properties in an object of their own. -/
theorem normalize_toJson_flatLabel :
    ∃ s, ((default : Normalizer).normalize flatLabel).scene = some s ∧ s.layers.length = 1 ∧
      (default : Normalizer).normalize s.toJson.sorted =
        ⟨some s, ⟨"object", [.canonical 1 0]⟩⟩ := by
  refine ⟨_, rfl, rfl,
    normalize_toJson default default isSorted_flatLabel (by decide) rfl fun l hl k _ => ?_⟩
  obtain rfl := List.mem_singleton.1 hl
  cases k <;> rfl

end Normalizer

end SceneLoop
