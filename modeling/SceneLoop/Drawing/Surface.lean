import SceneLoop.Drawing.Op
import SceneLoop.Viewport

/-!
# Drawing surfaces

A surface takes operations one at a time and may refuse some of them.  A sketch is a sequence of
operations that is given up at the first refusal, or at a fault of its own.

## Main definitions

* `Surface` : what a type of surfaces has to provide.
* `Sketch`, `Sketch.draw` : a sequence of operations between a save and a restore.
* `Recording` : a surface that takes note of all operations.
* `Refusing` : a surface that takes note of operations, except those it is told to refuse.
-/

namespace SceneLoop

/-- A type of drawing surfaces. -/
class Surface (σ : Type) where
  /-- The size of the drawing area. -/
  size : σ → Size
  /-- Take an operation, or refuse it. -/
  apply : Op → σ → σ × Option DrawFault

/-- A sequence of operations, possibly cut short by a fault. -/
structure Sketch where
  /-- The operations in order. -/
  ops : List Op
  /-- The fault after the last operation. -/
  fault : Option DrawFault := none

namespace Sketch

variable {σ : Type} [Surface σ]

/-- Apply operations in order until one is refused. -/
def applyAll : List Op → σ → σ × Option DrawFault
  | [], s => (s, none)
  | op :: rest, s =>
    match Surface.apply op s with
    | (s, none) => applyAll rest s
    | (s, some fault) => (s, some fault)

/-- Apply the operations of a sketch, and then meet its fault. -/
def run (sketch : Sketch) (s : σ) : σ × Option DrawFault :=
  match applyAll sketch.ops s with
  | (s, none) => (s, sketch.fault)
  | (s, some fault) => (s, some fault)

/-- Apply a sketch between a save and a restore, which comes after a refusal as well. -/
def draw (sketch : Sketch) (s : σ) : σ × Option DrawFault :=
  let (s, fault) := sketch.run (Surface.apply .save s).1
  ((Surface.apply .restore s).1, fault)

end Sketch

/-- A surface that takes note of all operations. -/
structure Recording where
  /-- The size of the drawing area. -/
  size : Size
  /-- How many saves have no restore yet. -/
  depth : Nat
  /-- The operations in order. -/
  ops : Array Op

namespace Recording

/-- A surface that has taken note of nothing. -/
def ofSize (size : Size) : Recording :=
  ⟨size, 0, #[]⟩

/-- Take note of an operation. -/
def note (op : Op) (r : Recording) : Recording :=
  let depth := match op with
    | .save => r.depth + 1
    | .restore => r.depth - 1
    | _ => r.depth
  { r with depth, ops := r.ops.push op }

/-- Forget the operations. -/
def forget (r : Recording) : Recording :=
  { r with ops := #[] }

instance : Surface Recording where
  size := Recording.size
  apply op r := (r.note op, none)

/-- The operations after one more. -/
@[simp]
theorem toList_ops_note (op : Op) (r : Recording) :
    (r.note op).ops.toList = r.ops.toList ++ [op] := by
  simp [note]

/-- Everything is recorded in order. -/
theorem applyAll_recording (ops : List Op) (r : Recording) :
    Sketch.applyAll ops r = (ops.foldl (fun r op => r.note op) r, none) := by
  induction ops generalizing r with
  | nil => rfl
  | cons op rest ih => exact ih (r.note op)

end Recording

/-- The name of an operation that a surface may refuse. -/
def Op.refusableName? : Op → Option String
  | .clear => some "clear"
  | .translate .. => some "translate"
  | .fillRect .. => some "fill_rect"
  | .strokeRect .. => some "stroke_rect"
  | .arc .. => some "arc"
  | .fill => some "fill"
  | .stroke => some "stroke"
  | .fillText .. => some "fill_text"
  | _ => none

/-- A surface that takes note of operations, except those it is told to refuse. -/
structure Refusing where
  /-- What was noted. -/
  inner : Recording
  /-- Whether to refuse the operation with a name that comes for the given time. -/
  refuses : String → Nat → Bool
  /-- The names of the operations asked for so far, refused ones included. -/
  asked : List String

namespace Refusing

/-- A surface of a size with a rule for refusals. -/
def ofSize (size : Size) (refuses : String → Nat → Bool) : Refusing :=
  ⟨.ofSize size, refuses, []⟩

/-- Take note of an operation unless it is to be refused. -/
def take (op : Op) (s : Refusing) : Refusing × Option DrawFault :=
  match op.refusableName? with
  | none => ({ s with inner := s.inner.note op }, none)
  | some name =>
    let asked := name :: s.asked
    if s.refuses name (asked.count name) then
      ({ s with asked }, some (.refused (name ++ " refused")))
    else ({ s with inner := s.inner.note op, asked }, none)

instance : Surface Refusing where
  size s := s.inner.size
  apply := take

end Refusing

end SceneLoop
