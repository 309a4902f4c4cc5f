import Mathlib
import SceneLoop.Proofs.Json.Sorted
import SceneLoop.Proofs.Payload.Unwrapping
import SceneLoop.Proofs.Scene.Props

/-!
# Spellings of a scene

A list of layers may stand alone or as the layers of an object, and a single layer may stand without
any list.  The properties of a layer may stand beside its type or in an object of their own.  All
these spellings come to the same layers.

## Main definitions

* `Fields.IsLayer` : the fields of an object that is read as one layer.
* `Fields.nested` : the fields of a layer, with its properties in an object of their own.

## Main results

* `Normalizer.scene_layerList`, `Normalizer.scene_withLayers`, `Normalizer.scene_layer` : the scenes
  of the three shapes.
* `Layer.ofFields_nested` : the place of the properties makes no difference.
* `Normalizer.spellings_agree` : the spellings of a scene are normalized alike.
-/

namespace SceneLoop

namespace Fields

/-- The fields of an object that is read as one layer: it has a type, no list of layers, and nothing
to unwrap. -/
structure IsLayer (fields : Fields) : Prop where
  kind : ∃ v, fields.get? "type" = some v ∧ v.isTruthy
  layers : fields.get? "layers" = none ∨ fields.get? "layers" = some .null
  visualization : ∀ v, fields.get? "visualization" = some v → v.isTruthy = false
  answer : ∀ inner v, fields.get? "answer" = some (.object inner) →
    Fields.get? "visualization" inner = some v → v.isTruthy = false

/-- The fields of a layer that are no properties, with all other fields in an object of their
own. -/
def nested (fields : Fields) : Fields :=
  Fields.insert "props" (.object (fields.without ["type", "animations"]))
    (List.filter (fun f => ["type", "animations"].contains f.1) fields)

variable {fields : Fields}

theorem get?_filter (keep : String → Bool) (name : String) (fields : Fields) :
    Fields.get? name (List.filter (fun f => keep f.1) fields) =
      if keep name then fields.get? name else none := by
  induction fields with
  | nil => simp
  | cons f rest ih =>
    by_cases hname : f.1 = name
    · subst hname
      cases hf : keep f.1 <;> simp [hf, get?_cons, ih]
    · cases hf : keep f.1 <;> simp [hf, get?_cons, hname, ih]

theorem get?_props_nested (fields : Fields) :
    fields.nested.get? "props" = some (.object (fields.without ["type", "animations"])) := by
  rw [nested, get?_insert, if_pos rfl]

theorem get?_nested {name : String} (h : name = "type" ∨ name = "animations") (fields : Fields) :
    fields.nested.get? name = fields.get? name := by
  have hne : "props" ≠ name := by rcases h with rfl | rfl <;> decide
  have hkept : ["type", "animations"].contains name = true := by rcases h with rfl | rfl <;> decide
  rw [nested, get?_insert, if_neg hne,
    get?_filter (fun name => ["type", "animations"].contains name), if_pos hkept]

end Fields

namespace Props

/-- A field that is null is no property. -/
theorem takeField_null (p : Props) (name : String) : p.takeField name .null = p := by
  rw [takeField_of_other p (.inr rfl)]
  rfl

/-- The properties beside the type are those in an object of their own, also if that object has the
null value that stood in its place. -/
theorem ofFields_without {fields : Fields} (h : fields.Distinct)
    (hprops : fields.get? "props" = none ∨ fields.get? "props" = some .null) :
    ofFields (fields.without ["type", "animations"]) [] =
      ofFields fields Layer.structuralNames := by
  have hnull : ∀ f ∈ fields, f.1 = "props" → f.2 = .null := by
    rintro ⟨name, value⟩ hf rfl
    have hget := h.get?_eq_some_iff.2 hf
    rcases hprops with hnone | hsome
    · rw [hnone] at hget
      cases hget
    · rw [hsome] at hget
      exact (Option.some.inj hget).symm
  rw [ofFields_eq_foldl, Fields.without_nil, Fields.without, List.foldl_filter, ofFields]
  refine List.foldl_ext _ _ _ fun p f hf => ?_
  by_cases hname : f.1 = "props"
  · simp [hname, hnull f hf hname, takeField_null]
  · by_cases htype : f.1 = "type"
    · simp [Layer.structuralNames, htype]
    · by_cases hanimations : f.1 = "animations" <;>
        simp [Layer.structuralNames, hname, htype, hanimations]

end Props

/-- The place of the properties makes no difference to a layer. -/
theorem Layer.ofFields_nested {fields : Fields} (h : fields.Distinct)
    (hprops : fields.get? "props" = none ∨ fields.get? "props" = some .null) :
    ofFields fields.nested = ofFields fields := by
  have hflat : propsOf fields = .ofFields fields structuralNames := by
    rcases hprops with hnone | hnull
    · rw [propsOf, hnone]
    · rw [propsOf, hnull]
  have hnested : propsOf fields.nested = propsOf fields := by
    rw [hflat, propsOf, Fields.get?_props_nested]
    exact Props.ofFields_without h hprops
  rw [ofFields, ofFields, hnested, kindOf, kindOf, animationsOf, animationsOf,
    Fields.get?_nested (.inl rfl), Fields.get?_nested (.inr rfl)]

/-- A list of layers that stands alone. -/
def Json.layerList (layers : List Fields) : Json :=
  .array (layers.map .object)

/-- An object with nothing but a list of layers. -/
def Json.withLayers (layers : List Fields) : Json :=
  .object [("layers", layerList layers)]

namespace Normalizer

/-! ### Scenes of the three shapes -/

theorem scene_layerList (n : Normalizer) (layers : List Fields) :
    (n.normalize (.layerList layers)).scene =
      some (.ofLayers n.defaultPeriod (layers.map Layer.ofFields)) := by
  have hlayers : (layers.map Json.object).map entryLayer = layers.map Layer.ofFields := by
    rw [List.map_map]
    rfl
  rw [← hlayers]
  rfl

theorem scene_withLayers (n : Normalizer) (layers : List Fields) :
    (n.normalize (.withLayers layers)).scene =
      some (.ofLayers n.defaultPeriod (layers.map Layer.ofFields)) := by
  have hfields : (layers.map Json.object).filterMap Json.fields? = layers := by
    rw [List.filterMap_map]
    exact List.filterMap_some
  change some (Scene.ofLayers n.defaultPeriod
    (((layers.map Json.object).filterMap Json.fields?).map Layer.ofFields)) = _
  rw [hfields]

theorem scene_layer (n : Normalizer) {fields : Fields} (h : fields.IsLayer) :
    (n.normalize (.object fields)).scene =
      some (.ofLayers (Scene.periodOf (fields.get? "duration") n.defaultPeriod)
        [.ofFields fields]) := by
  have hbare : (Json.object fields).IsBare := by
    intro step w hstep
    cases hstep with
    | visualization hget hv => simp [h.visualization _ hget] at hv
    | answerVisualization hown hanswer hget hv => simp [h.answer _ _ hanswer hget] at hv
  obtain ⟨kind, hkind, htruthy⟩ := h.kind
  have hpresent := Shape.present?_eq_some_iff.2 ⟨hkind, htruthy⟩
  have hnone : Shape.hasLayers fields = false := by
    rcases h.layers with hlayers | hlayers <;> simp [Shape.hasLayers, hlayers, Json.isNull]
  have hshape : Shape.of (.object fields) = .singleLayer fields := by
    rw [shape_of_object_of_isBare hbare, Shape.ofPlainFields, hpresent, hnone]
    rfl
  rw [normalize, follow_of_isBare hbare, hshape]
  rfl

/-! ### Spellings -/

/-- A single layer is the same without a list, in a list and in the list of an object. -/
theorem layers_of_isLayer (n : Normalizer) {fields : Fields} (h : fields.IsLayer) {v : Json}
    (hv : v ∈ [.object fields, .layerList [fields], .withLayers [fields]]) :
    ∃ s, (n.normalize v).scene = some s ∧ s.layers = [.ofFields fields] := by
  simp only [List.mem_cons, List.not_mem_nil, or_false] at hv
  rcases hv with rfl | rfl | rfl
  · exact ⟨_, n.scene_layer h, rfl⟩
  · exact ⟨_, n.scene_layerList [fields], rfl⟩
  · exact ⟨_, n.scene_withLayers [fields], rfl⟩

/-- A list of layers is the same with the properties of one of them in an object of their own. -/
theorem map_ofFields_set_nested {layers : List Fields} {i : Nat} {fields : Fields}
    (hi : layers[i]? = some fields) (h : fields.Distinct)
    (hprops : fields.get? "props" = none ∨ fields.get? "props" = some .null) :
    (layers.set i fields.nested).map Layer.ofFields = layers.map Layer.ofFields := by
  obtain ⟨hlt, rfl⟩ := List.getElem?_eq_some_iff.1 hi
  rw [List.map_set, Layer.ofFields_nested h hprops, ← List.map_set, List.set_getElem_self]

/-- **The spellings of a scene.** A list of layers comes to the same scene alone and as the layers
of an object.  An object that is read as one layer comes to the same layer alone, in a list and in
the list of an object.  And the scene of a list of layers stays the same if the properties of one of
them, which stand beside its type, are moved to an object of their own, whatever their names are. -/
theorem spellings_agree (n : Normalizer) (layers : List Fields) :
    (∃ s, (n.normalize (.layerList layers)).scene = some s ∧
      (n.normalize (.withLayers layers)).scene = some s) ∧
    (∀ fields : Fields, fields.IsLayer →
      ∃ l, ∀ v ∈ [.object fields, .layerList [fields], .withLayers [fields]],
        ∃ s, (n.normalize v).scene = some s ∧ s.layers = [l]) ∧
    (∀ (i : Nat) (fields : Fields), layers[i]? = some fields → fields.Distinct →
      (fields.get? "props" = none ∨ fields.get? "props" = some .null) →
      (n.normalize (.layerList (layers.set i fields.nested))).scene =
          (n.normalize (.layerList layers)).scene ∧
        (n.normalize (.withLayers (layers.set i fields.nested))).scene =
          (n.normalize (.withLayers layers)).scene) := by
  refine ⟨⟨_, n.scene_layerList layers, n.scene_withLayers layers⟩, fun fields h => ?_, ?_⟩
  · exact ⟨.ofFields fields, fun v hv => n.layers_of_isLayer h hv⟩
  · intro i fields hi h hprops
    have hlayers := map_ofFields_set_nested hi h hprops
    rw [scene_layerList, scene_layerList, scene_withLayers, scene_withLayers, hlayers]
    exact ⟨rfl, rfl⟩

/-- A rectangle with its properties beside its type, and a null value in the place of an object for
them. -/
def flatRect : Fields :=
  [("fill", .text "tomato"), ("glow", .array []), ("props", .null), ("type", .text "rect")]

theorem spellings_agree_flatRect :
    flatRect.IsLayer ∧ flatRect.Distinct ∧
      flatRect.nested = [("props", .object [("fill", .text "tomato"), ("glow", .array []),
        ("props", .null)]), ("type", .text "rect")] ∧
      (∃ l, ∀ v ∈ [.object flatRect, .layerList [flatRect], .withLayers [flatRect]],
        ∃ s, ((default : Normalizer).normalize v).scene = some s ∧ s.layers = [l]) ∧
      ((default : Normalizer).normalize (.layerList [flatRect.nested])).scene =
        ((default : Normalizer).normalize (.layerList [flatRect])).scene := by
  have hlayer : flatRect.IsLayer :=
    ⟨⟨_, rfl, rfl⟩, .inl rfl, (fun _ h => by cases h), (fun _ _ h => by cases h)⟩
  have hdistinct : flatRect.Distinct := by
    simp [flatRect, Fields.Distinct]
  obtain ⟨-, hsingle, hnested⟩ := spellings_agree default [flatRect]
  exact ⟨hlayer, hdistinct, rfl, hsingle flatRect hlayer,
    (hnested 0 flatRect rfl hdistinct (.inr rfl)).1⟩

end Normalizer

end SceneLoop
