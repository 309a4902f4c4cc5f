import SceneLoop.Fault
import SceneLoop.Payload.Extraction
import SceneLoop.Scene.Basic

/-!
# From a payload to a scene

A payload is a value of almost any shape.  It is unwrapped step by step, from a text to the value
in it and from an object to the visualization inside, until a scene, a list of layers or a single
layer is reached.  Nothing here fails: a payload without a scene gives a reason instead, and the
trace records every step.

## Main definitions

* `Shape`, `Shape.of` : what a value looks like, the first match in a fixed order.
* `Unwrapping`, `Shape.unwrap?` : one step from a value to the value inside.
* `Normalizer.normalize` : the scene in a payload, with its trace.
-/

namespace SceneLoop

/-- What a value looks like. -/
inductive Shape where
  /-- There is no value. -/
  | missing
  /-- A text, which may hold a value. -/
  | text (s : String)
  /-- An object around a visualization. -/
  | wrapped (inner : Json)
  /-- An object around an answer with a visualization. -/
  | answerWrapped (inner : Json)
  /-- A list of layers. -/
  | layerArray (items : List Json)
  /-- One layer. -/
  | singleLayer (fields : Fields)
  /-- A scene with its list of layers. -/
  | canonical (fields : Fields) (items : List Json)
  /-- Nothing of these; the text says what it is. -/
  | unrecognized (what : String)

/-- Whether a field counts as present: empty texts, zero, false and null do not. -/
def Json.isTruthy : Json → Bool
  | .null => false
  | .bool b => b
  | .number n => n.toDouble != 0 && !n.toDouble.isNaN
  | .text s => !s.isEmpty
  | .array _ | .object _ => true

namespace Shape

/-- A value, if it counts as present. -/
def present? (value : Option Json) : Option Json :=
  value.filter Json.isTruthy

/-- The visualization in the answer of an object. -/
def answerVisualization? (fields : Fields) : Option Json :=
  (fields.get? "answer").bind fun answer =>
    answer.fields?.bind fun inner => present? (inner.get? "visualization")

/-- Whether an object names its layers. -/
def hasLayers (fields : Fields) : Bool :=
  match fields.get? "layers" with
  | some v => !v.isNull
  | none => false

/-- What an object without a visualization looks like. -/
def ofPlainFields (fields : Fields) : Shape :=
  if (present? (fields.get? "type")).isSome && !hasLayers fields then .singleLayer fields
  else
    match fields.get? "layers" with
    | some (.array items) => .canonical fields items
    | some .null | none => .unrecognized "object without layers"
    | some _ => .unrecognized "object whose layers is not an array"

/-- What an object looks like. -/
def ofFields (fields : Fields) : Shape :=
  match present? (fields.get? "visualization") with
  | some inner => .wrapped inner
  | none =>
    match answerVisualization? fields with
    | some inner => .answerWrapped inner
    | none => ofPlainFields fields

/-- What a value looks like. -/
def of : Json → Shape
  | .null => .missing
  | .text s => .text s
  | .array items => .layerArray items
  | .object fields => ofFields fields
  | .bool _ => .unrecognized "boolean"
  | .number _ => .unrecognized "number"

end Shape

/-- Why a payload has no scene. -/
inductive Rejection where
  /-- There is no payload. -/
  | missing
  /-- A text holds no value. -/
  | noValue
  /-- A value has none of the known shapes. -/
  | unrecognized (what : String)
  /-- The scene is wrapped too often. -/
  | tooDeep
deriving DecidableEq

/-- At most this many steps lead from a payload to its scene. -/
def maxUnwrappings : Nat := 16

/-- The fault that a rejection is. -/
def Rejection.fault : Rejection → Fault
  | .missing => .normalize "payload is missing"
  | .noValue => .extract "no JSON value found in text"
  | .unrecognized what => .normalize ("unrecognized " ++ what)
  | .tooDeep => .normalize ("nested deeper than " ++ toString maxUnwrappings ++ " levels")

/-- One step from a value to the value inside. -/
inductive Unwrapping where
  /-- A value was found in a text. -/
  | extracted (strategy : Strategy)
  /-- The visualization of an object was taken. -/
  | visualization
  /-- The visualization of the answer of an object was taken. -/
  | answerVisualization
deriving DecidableEq

/-- One entry of a trace. -/
inductive TraceStep where
  /-- A step to the value inside. -/
  | unwrapped (step : Unwrapping)
  /-- A list of layers was taken as a scene. -/
  | layerArray (layers : Nat)
  /-- One layer was taken as a scene. -/
  | singleLayer
  /-- A scene was read; entries that are not objects were dropped. -/
  | canonical (layers dropped : Nat)
  /-- There is no scene. -/
  | rejected (reason : Rejection)
deriving DecidableEq

/-- The text of a step. -/
def TraceStep.toText : TraceStep → String
  | .unwrapped (.extracted strategy) => "extracted JSON via " ++ strategy.label
  | .unwrapped .visualization => "unwrapped .visualization"
  | .unwrapped .answerVisualization => "unwrapped .answer.visualization"
  | .layerArray layers => "bare layer array (" ++ toString layers ++ " layers)"
  | .singleLayer => "single layer"
  | .canonical layers 0 => "canonical scene (" ++ toString layers ++ " layers)"
  | .canonical layers dropped =>
    "canonical scene (" ++ toString layers ++ " layers, " ++ toString dropped ++
      " malformed entries dropped)"
  | .rejected reason => "no scene: " ++ reason.fault.message

/-- How a payload was understood. -/
structure Trace where
  /-- The kind of the payload. -/
  input : String
  /-- The steps in order. -/
  steps : List TraceStep

namespace Trace

/-- Whether the payload has no scene. -/
def isRejected (t : Trace) : Bool :=
  match t.steps.getLast? with
  | some (.rejected _) => true
  | _ => false

/-- The text of a trace. -/
def toText (t : Trace) : String :=
  t.steps.foldl (fun s step => s ++ " -> " ++ step.toText) ("input: " ++ t.input)

end Trace

/-- What a payload comes to. -/
structure Normalized where
  /-- The scene, if there is one. -/
  scene : Option Scene
  /-- How the payload was understood. -/
  trace : Trace

namespace Shape

/-- The value inside a value, and the step that leads to it.  An object with a visualization and a
text have one, unless the text holds no value. -/
def unwrap? : Shape → Option (Json × Unwrapping)
  | .text s => (Extraction.find? s).map fun found => (found.1, .extracted found.2)
  | .wrapped inner => some (inner, .visualization)
  | .answerWrapped inner => some (inner, .answerVisualization)
  | _ => none

end Shape

/-- Reads payloads as scenes. -/
structure Normalizer where
  /-- The period of scenes that name none, in milliseconds. -/
  defaultPeriod : UInt64

namespace Normalizer

/-- The normalizer with a period for scenes that name none; zero stands for the default. -/
def ofPeriod (period : UInt64) : Normalizer :=
  ⟨Scene.positive period⟩

instance : Inhabited Normalizer := ⟨ofPeriod Scene.defaultPeriod⟩

/-- The layer for an entry of a list of layers; what is not an object is an empty rectangle. -/
def entryLayer : Json → Layer
  | .object fields => .ofFields fields
  | _ => .ofKind .rect

/-- The scene that a shape is, with the step that says so. -/
def recognize (n : Normalizer) : Shape → Except Rejection (Scene × TraceStep)
  | .layerArray items =>
    .ok (.ofLayers n.defaultPeriod (items.map entryLayer), .layerArray items.length)
  | .singleLayer fields =>
    .ok (.ofLayers (Scene.periodOf (fields.get? "duration") n.defaultPeriod) [.ofFields fields],
      .singleLayer)
  | .canonical fields items =>
    let layers := (items.filterMap Json.fields?).map Layer.ofFields
    .ok (.ofLayers (Scene.periodOf (fields.get? "duration") n.defaultPeriod) layers,
      .canonical layers.length (items.length - layers.length))
  | .unrecognized what => .error (.unrecognized what)
  | .text _ => .error .noValue
  | .missing | .wrapped _ | .answerWrapped _ => .error .missing

/-- The scene in a value, unless it takes more than `budget` steps to unwrap, with all steps. -/
def follow (n : Normalizer) : (budget : Nat) → Json → Option Scene × List TraceStep
  | budget, value =>
    match (Shape.of value).unwrap? with
    | some (inner, step) =>
      match budget with
      | 0 => (none, [.unwrapped step, .rejected .tooDeep])
      | budget + 1 =>
        let result := n.follow budget inner
        (result.1, .unwrapped step :: result.2)
    | none =>
      match n.recognize (Shape.of value) with
      | .ok (scene, step) => (some scene, [step])
      | .error reason => (none, [.rejected reason])

/-- The scene in a payload, with its trace. -/
def normalize (n : Normalizer) (payload : Json) : Normalized :=
  let result := n.follow maxUnwrappings payload
  ⟨result.1, ⟨payload.kindName, result.2⟩⟩

/-- The scene in a text, with its trace. -/
def normalizeText (n : Normalizer) (text : String) : Normalized :=
  n.normalize (.text text)

end Normalizer

end SceneLoop
