import Mathlib
import SceneLoop.Proofs.Scene.Props
import SceneLoop.Scene.Basic

/-!
# Reading back what was written

What is read from a payload has no infinite numbers, its other fields are sorted, and its kinds and
animations have the names they were read under.  Properties, animations and layers with these
invariants are read back from the values that they are written as.

## Main definitions

* `Props.IsRead`, `Animation.IsRead`, `Layer.IsRead` : the invariants of what is read.

## Main results

* `Layer.isRead_ofFields` : a layer of a payload has the invariants.
* `Props.ofFields_toFields`, `Animation.ofFields?_toJson` : properties and animations are read back.
* `Layer.ofFields_toJson` : a layer is read back if no other field has the name of one of its keys.
-/

namespace SceneLoop

/-! ### Numbers -/

theorem numberOfText?_isFinite {s : String} {x : Float} (h : numberOfText? s = some x) :
    x.isFinite := by
  rw [numberOfText?] at h
  split at h
  · split at h
    · next hfinite =>
      cases h
      exact hfinite
    · cases h
  · cases h

theorem Json.coerceNumber_isFinite {v : Json} {x : Float} (h : v.coerceNumber = some x) :
    x.isFinite := by
  cases v with
  | null | bool | array | object => cases h
  | text s => exact numberOfText?_isFinite h
  | number n =>
    simp only [coerceNumber] at h
    split at h
    · next hfinite =>
      cases h
      exact hfinite
    · cases h

theorem Json.coerceNumber_ofDouble (x : Float) :
    (ofDouble x).coerceNumber = if x.isFinite then some x else none := by
  rw [ofDouble]
  split
  · next hfinite => simp [coerceNumber, Number.toDouble, hfinite]
  · rfl

theorem Json.isSorted_ofDouble (x : Float) : (ofDouble x).IsSorted := by
  rw [ofDouble]
  split <;> trivial

/-! ### Values of properties -/

namespace PropValue

/-- A number of a payload is finite. -/
def IsRead : PropValue → Prop
  | .number v => v.isFinite
  | _ => True

theorem isRead_of_ofJson? {value : Json} {v : PropValue} (h : ofJson? value = some v) :
    v.IsRead := by
  cases value with
  | null | array | object => cases h
  | text | bool =>
    cases h
    trivial
  | number n =>
    simp only [ofJson?] at h
    split at h
    · next hfinite =>
      cases h
      exact hfinite
    · cases h

theorem ofJson?_toJson {v : PropValue} (h : v.IsRead) : ofJson? v.toJson = some v := by
  cases v with
  | text | bool => rfl
  | number x =>
    have hfinite : x.isFinite := h
    simp [toJson, Json.ofDouble, hfinite, ofJson?, Json.Number.toDouble]

/-- A value is read back from what it is written as, unless it is a number without a written
form. -/
theorem ofJson?_toJson_eq_some_iff {v : PropValue} : ofJson? v.toJson = some v ↔ v.IsRead :=
  ⟨isRead_of_ofJson?, ofJson?_toJson⟩

theorem isSorted_toJson (v : PropValue) : v.toJson.IsSorted := by
  cases v with
  | text | bool => trivial
  | number x => exact Json.isSorted_ofDouble x

end PropValue

/-! ### Properties -/

namespace Props

/-- The properties of a payload: their values are those of a payload, and the other fields are
sorted and were kept. -/
structure IsRead (p : Props) : Prop where
  known : ∀ k v, p.get? k = some v → v.IsRead
  sorted : (Json.object p.extra).IsSorted
  kept : ∀ name value, p.extra.get? name = some value → isKept name value

theorem isRead_empty : empty.IsRead where
  known k v h := by simp [get?_empty] at h
  sorted := Json.isSorted_object.2 ⟨.nil, by simp [empty]⟩
  kept name value h := by cases h

theorem isRead_ofFields {fields : Fields} (h : (Json.object fields).IsSorted)
    (excluded : List String) : (ofFields fields excluded).IsRead := by
  obtain ⟨hsorted, hvalues⟩ := Json.isSorted_object.1 h
  have hextra := get?_extra_ofFields hsorted.distinct excluded
  have hfields : (ofFields fields excluded).extra.Sorted := sorted_extra_ofFields fields excluded
  constructor
  · intro k v hv
    rw [get?_ofFields hsorted.distinct, Option.or_eq_some_iff] at hv
    rcases hv with hv | ⟨-, hv⟩
    · obtain ⟨value, -, hv⟩ := Option.bind_eq_some_iff.1 hv
      exact PropValue.isRead_of_ofJson? hv
    · split at hv
      · obtain ⟨value, -, hv⟩ := Option.bind_eq_some_iff.1 hv
        exact PropValue.isRead_of_ofJson? hv
      · cases hv
  · refine Json.isSorted_object.2 ⟨hfields, fun f hf => ?_⟩
    have hget : (ofFields fields excluded).extra.get? f.1 = some f.2 :=
      hfields.distinct.get?_eq_some_iff.2 hf
    rw [hextra, Option.filter_eq_some_iff] at hget
    have hmem := Fields.mem_of_get? hget.1
    exact hvalues _ (List.mem_filter.1 hmem).1
  · intro name value hget
    rw [hextra, Option.filter_eq_some_iff] at hget
    exact hget.2

/-- No other field has the name of a key with a value. -/
def NoClash (p : Props) : Prop :=
  ∀ k, (p.get? k).isSome → p.extra.get? k.name = none

theorem mem_entries {p : Props} {k : PropKey} {v : PropValue} :
    (k, v) ∈ p.entries ↔ p.get? k = some v := by
  simp [entries, PropKey.mem_all]

theorem mem_toFields {p : Props} {name : String} {value : Json} :
    (name, value) ∈ p.toFields ↔
      (∃ k v, p.get? k = some v ∧ k.name = name ∧ v.toJson = value) ∨ (name, value) ∈ p.extra := by
  simp [toFields, mem_entries]

/-- The names of the keys with values are distinct. -/
theorem distinct_map_entries (p : Props) :
    Fields.Distinct (p.entries.map fun e => (e.1.name, e.2.toJson)) := by
  have hall : PropKey.all.Pairwise (· ≠ ·) := by decide
  rw [Fields.Distinct, entries, List.map_filterMap, List.pairwise_filterMap]
  refine hall.imp fun {k l} hkl e he f hf heq => ?_
  simp only [Option.map_map, Option.map_eq_some_iff, Function.comp_apply] at he hf
  obtain ⟨v, -, rfl⟩ := he
  obtain ⟨w, -, rfl⟩ := hf
  exact hkl (PropKey.name_inj heq)

theorem distinct_toFields {p : Props} (h : p.extra.Sorted) (hclash : p.NoClash) :
    Fields.Distinct p.toFields := by
  refine List.pairwise_append.2 ⟨p.distinct_map_entries, h.distinct, ?_⟩
  intro f hf g hg heq
  obtain ⟨e, he, rfl⟩ := List.mem_map.1 hf
  have hsome : (p.get? e.1).isSome := by simp [mem_entries.1 he]
  exact Fields.get?_eq_none_iff.1 (hclash e.1 hsome) g hg heq.symm

/-- What is read from written properties: the values of the keys and the other fields. -/
theorem get?_toFields {p : Props} (h : p.IsRead) (hclash : p.NoClash) {name : String}
    {value : Json} :
    (Fields.ofList p.toFields).get? name = some value ↔
      (∃ k v, p.get? k = some v ∧ k.name = name ∧ v.toJson = value) ∨
        p.extra.get? name = some value := by
  have hdistinct := distinct_toFields h.sorted.1 hclash
  rw [Fields.get?_ofList hdistinct, hdistinct.get?_eq_some_iff, mem_toFields,
    h.sorted.1.distinct.get?_eq_some_iff]

theorem scalar?_toFields {p : Props} (h : p.IsRead) (hclash : p.NoClash) (k : PropKey) :
    (Fields.ofList p.toFields).scalar? k.name = p.get? k := by
  refine Option.ext fun v => ?_
  simp only [Fields.scalar?, Option.bind_eq_some_iff, get?_toFields h hclash]
  constructor
  · rintro ⟨value, ⟨l, w, hw, hname, rfl⟩ | hextra, hv⟩
    · obtain rfl := PropKey.name_inj hname
      rw [PropValue.ofJson?_toJson (h.known l w hw)] at hv
      rw [hw, hv]
    · have hkept := h.kept _ _ hextra
      simp [isKept, PropKey.lookup_name, hv] at hkept
  · intro hv
    exact ⟨v.toJson, .inl ⟨k, v, hv, rfl, rfl⟩, PropValue.ofJson?_toJson (h.known k v hv)⟩

theorem scalar?_toFields_fontSizeAlias {p : Props} (h : p.IsRead) (hclash : p.NoClash) :
    (Fields.ofList p.toFields).scalar? PropKey.fontSizeAlias = none := by
  refine Option.eq_none_iff_forall_ne_some.2 fun v hv => ?_
  simp only [Fields.scalar?, Option.bind_eq_some_iff, get?_toFields h hclash] at hv
  obtain ⟨value, ⟨k, w, -, hname, -⟩ | hextra, hv⟩ := hv
  · exact k.name_ne_fontSizeAlias hname
  · have hkept := h.kept _ _ hextra
    simp [isKept, PropKey.lookup_fontSizeAlias, hv] at hkept

theorem isSorted_of_mem_toFields {p : Props} (h : p.IsRead) :
    ∀ f ∈ p.toFields, f.2.IsSorted := by
  intro f hf
  rcases mem_toFields.1 hf with ⟨k, v, -, -, hv⟩ | hextra
  · exact hv ▸ v.isSorted_toJson
  · exact (Json.isSorted_object.1 h.sorted).2 f hextra

/-- Properties of a payload are read back from what they are written as. -/
theorem ofFields_toFields {p : Props} (h : p.IsRead) (hclash : p.NoClash) :
    ofFields (Fields.ofList p.toFields) [] = p := by
  have hdistinct := (Fields.sorted_ofList p.toFields).distinct
  refine ext_get? (fun k => ?_) ?_
  · rw [get?_ofFields hdistinct, Fields.without_nil, scalar?_toFields h hclash,
      scalar?_toFields_fontSizeAlias h hclash, ite_self, Option.or_none]
  · refine (sorted_extra_ofFields _ _).ext h.sorted.1 fun name => Option.ext fun value => ?_
    rw [get?_extra_ofFields hdistinct, Fields.without_nil, Option.filter_eq_some_iff,
      get?_toFields h hclash]
    constructor
    · rintro ⟨⟨k, v, hv, rfl, rfl⟩ | hextra, hkept⟩
      · simp [isKept, PropKey.lookup_name, PropValue.ofJson?_toJson (h.known k v hv)] at hkept
      · exact hextra
    · intro hextra
      exact ⟨.inr hextra, h.kept name value hextra⟩

end Props

/-! ### Objects that are written -/

/-- What is read from a written object whose names are distinct and whose values are sorted. -/
theorem Json.sorted_object {fields : Fields} (h : ∀ f ∈ fields, f.2.IsSorted) :
    (Json.object fields).sorted = .object (Fields.ofList fields) := by
  rw [sorted, sortedFields_eq_self fields (areSortedFields_iff.2 h)]

/-! ### Animations -/

namespace Animation

/-- The animations of a payload: they name a property and have finite numbers, except an end that
is too large. -/
structure IsRead (a : Animation) : Prop where
  property_ne : a.property.isEmpty = false
  start : a.start.isFinite
  initial : a.initial.isFinite
  final : a.final.isFinite
  finish : a.finish.isFinite ∨ a.finish = a.start + defaultSpan

theorem isFinite_of_numberOf? {fields : Fields} {name : String} {x : Float}
    (h : numberOf? fields name = some x) : x.isFinite := by
  obtain ⟨v, -, hv⟩ := Option.bind_eq_some_iff.1 h
  exact Json.coerceNumber_isFinite hv

theorem isFinite_numberOf?_getD (fields : Fields) (name : String) {x : Float} (hx : x.isFinite) :
    ((numberOf? fields name).getD x).isFinite := by
  cases h : numberOf? fields name with
  | none => exact hx
  | some y => exact isFinite_of_numberOf? h

theorem isRead_of_ofFields? {fields : Fields} {a : Animation} (h : ofFields? fields = some a) :
    a.IsRead := by
  have hzero : (0 : Float).isFinite := by decide
  simp only [ofFields?] at h
  split at h
  · next property _ =>
    split at h
    · cases h
    · next hne =>
      cases h
      have hinitial := isFinite_numberOf?_getD fields "from" hzero
      refine ⟨by simpa using hne, isFinite_numberOf?_getD fields "start" hzero, hinitial,
        isFinite_numberOf?_getD fields "to" hinitial, ?_⟩
      cases hend : numberOf? fields "end" with
      | none => exact .inr rfl
      | some x => exact .inl (isFinite_of_numberOf? hend)
  · cases h

theorem numberOf?_ofList {fields : Fields} (h : fields.Distinct) (name : String) :
    numberOf? (Fields.ofList fields) name = (fields.get? name).bind Json.coerceNumber := by
  rw [numberOf?, Fields.get?_ofList h]

/-- An animation of a payload is read back from what it is written as. -/
theorem ofFields?_toJson {a : Animation} (h : a.IsRead) :
    a.toJson.sorted.fields?.bind ofFields? = some a := by
  have hsorted : ∀ f ∈ [("property", Json.text a.property), ("start", .ofDouble a.start),
      ("end", .ofDouble a.finish), ("from", .ofDouble a.initial), ("to", .ofDouble a.final)],
      f.2.IsSorted := by
    simp [Json.isSorted_ofDouble, Json.IsSorted]
  have hdistinct : Fields.Distinct [("property", Json.text a.property),
      ("start", .ofDouble a.start), ("end", .ofDouble a.finish), ("from", .ofDouble a.initial),
      ("to", .ofDouble a.final)] := by
    simp [Fields.Distinct]
  have hfinish : (if a.finish.isFinite then some a.finish else none).getD
      (a.start + defaultSpan) = a.finish := by
    split
    · rfl
    · next hne => exact (h.finish.resolve_left hne).symm
  rw [toJson, Json.sorted_object hsorted]
  simp only [Json.fields?, Option.bind_some, ofFields?, Fields.get?_ofList hdistinct,
    numberOf?_ofList hdistinct]
  simp [Fields.get?_cons, Json.coerceNumber_ofDouble, h.property_ne, h.start, h.initial, h.final,
    hfinish]

end Animation

/-! ### Layers -/

namespace LayerKind

theorem ofName_eq (name : String) :
    ofName name ∈ [.rect, .circle, .line, .text, .label] ∨ ofName name = .unknown name := by
  unfold ofName
  split <;> simp

/-- A kind is read back from its name. -/
theorem ofName_name_ofName (name : String) : ofName (ofName name).name = ofName name := by
  rcases ofName_eq name with h | h
  · simp only [List.mem_cons, List.not_mem_nil, or_false] at h
    rcases h with h | h | h | h | h <;> rw [h] <;> cbv
  · rw [h]
    exact h

theorem ofName_empty : ofName "" = .unknown "" := by
  cbv

end LayerKind

namespace Layer

/-- The layers of a payload. -/
structure IsRead (l : Layer) : Prop where
  kind : LayerKind.ofName l.kind.name = l.kind
  props : l.props.IsRead
  animations : ∀ a ∈ l.animations, a.IsRead

theorem isRead_ofKind {kind : LayerKind} (h : LayerKind.ofName kind.name = kind) :
    (ofKind kind).IsRead :=
  ⟨h, Props.isRead_empty, by simp [ofKind]⟩

theorem ofName_kindOf (fields : Fields) :
    LayerKind.ofName (kindOf fields).name = kindOf fields := by
  rw [kindOf]
  split
  · exact LayerKind.ofName_name_ofName _
  · exact LayerKind.ofName_empty

theorem isRead_propsOf {fields : Fields} (h : (Json.object fields).IsSorted) :
    (propsOf fields).IsRead := by
  rw [propsOf]
  split
  · next props hprops => exact Props.isRead_ofFields (h.of_get? hprops) []
  · exact Props.isRead_ofFields h structuralNames
  · exact Props.isRead_ofFields h structuralNames
  · exact Props.isRead_empty

theorem isRead_of_mem_animationsOf {fields : Fields} {a : Animation}
    (h : a ∈ animationsOf fields) : a.IsRead := by
  rw [animationsOf] at h
  split at h
  · obtain ⟨v, -, hv⟩ := List.mem_filterMap.1 h
    obtain ⟨fields, -, ha⟩ := Option.bind_eq_some_iff.1 hv
    exact Animation.isRead_of_ofFields? ha
  · cases h

/-- A layer of a payload has the invariants. -/
theorem isRead_ofFields {fields : Fields} (h : (Json.object fields).IsSorted) :
    (ofFields fields).IsRead :=
  ⟨ofName_kindOf fields, isRead_propsOf h, fun _ => isRead_of_mem_animationsOf⟩

/-- The animations of a payload are read back from what they are written as. -/
theorem filterMap_toJson {animations : List Animation} (h : ∀ a ∈ animations, a.IsRead) :
    (animations.map fun a => a.toJson.sorted).filterMap
      (fun v => v.fields?.bind Animation.ofFields?) = animations := by
  induction animations with
  | nil => rfl
  | cons a rest ih =>
    obtain ⟨ha, hrest⟩ := List.forall_mem_cons.1 h
    rw [List.map_cons, List.filterMap_cons, Animation.ofFields?_toJson ha]
    exact congrArg (a :: ·) (ih hrest)

/-- The fields of a written layer, each of them sorted. -/
def sortedFields (l : Layer) : Fields :=
  [("type", .text l.kind.name), ("props", .object (Fields.ofList l.props.toFields))] ++
    if l.animations.isEmpty then []
    else [("animations", .array (l.animations.map fun a => a.toJson.sorted))]

theorem sorted_toJson {l : Layer} (h : l.IsRead) :
    l.toJson.sorted = .object (Fields.ofList l.sortedFields) := by
  have hprops : Json.sortedFields l.props.toFields = l.props.toFields :=
    Json.sortedFields_eq_self _
      (Json.areSortedFields_iff.2 (Props.isSorted_of_mem_toFields h.props))
  rw [toJson, sortedFields]
  split <;> simp [Json.sorted, Json.sortedFields, Json.sortedItems_eq_map, Function.comp_def,
    hprops]

theorem distinct_sortedFields (l : Layer) : l.sortedFields.Distinct := by
  rw [sortedFields]
  split <;> simp [Fields.Distinct]

/-- A layer of a payload is read back from what it is written as. -/
theorem ofFields_sortedFields {l : Layer} (h : l.IsRead) (hclash : l.props.NoClash) :
    ofFields (Fields.ofList l.sortedFields) = l := by
  have hget := Fields.get?_ofList l.distinct_sortedFields
  have htype : l.sortedFields.get? "type" = some (.text l.kind.name) := rfl
  have hprops : l.sortedFields.get? "props" =
      some (.object (Fields.ofList l.props.toFields)) := rfl
  have hanimations : animationsOf (Fields.ofList l.sortedFields) = l.animations := by
    rw [animationsOf, hget, sortedFields]
    cases hanimations : l.animations with
    | nil => rfl
    | cons a rest =>
      have hread := filterMap_toJson (hanimations ▸ h.animations)
      exact hread
  rw [ofFields, kindOf, propsOf, hanimations, hget, hget, htype, hprops]
  simp only [h.kind, Props.ofFields_toFields h.props hclash]

end Layer

end SceneLoop
