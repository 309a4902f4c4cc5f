import SceneLoop.Text.Quoted

/-!
# Faults

What can go wrong in each part of the library, with the text that is shown for it.

## Main definitions

* `Fault`, `Fault.message` : the faults and their texts.
-/

namespace SceneLoop

/-- A fault, by the part of the library it comes from. -/
inductive Fault where
  /-- A text holds no value. -/
  | extract (text : String)
  /-- A payload has no scene. -/
  | normalize (text : String)
  /-- A layer could not be drawn. -/
  | draw (layer : Nat) (text : String)
  /-- A drawing surface refused an operation. -/
  | surface (text : String)
  /-- A settings file could not be used. -/
  | config (text path : String)
  /-- A file could not be read or written. -/
  | io (text : String)
  /-- A value could not be written or read. -/
  | serialization (text : String)
  /-- An argument is out of its range. -/
  | invalidArgument (text : String)
  /-- Any other fault. -/
  | other (text : String)
deriving DecidableEq

namespace Fault

/-- The text shown for a fault. -/
def message : Fault → String
  | .extract text => "extract error: " ++ text
  | .normalize text => "normalize error: " ++ text
  | .draw layer text => "draw error in layer " ++ toString layer ++ ": " ++ text
  | .surface text => "surface error: " ++ text
  | .config text path => "config error: " ++ text ++ " (" ++ Text.quoted path ++ ")"
  | .io text => "IO error: " ++ text
  | .serialization text => "serialization error: " ++ text
  | .invalidArgument text => "invalid argument: " ++ text
  | .other text => text

end Fault

end SceneLoop
