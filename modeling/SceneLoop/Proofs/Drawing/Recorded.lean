import SceneLoop.Proofs.Drawing.Sketch

/-!
# What a recording takes note of

A recording refuses nothing, so all operations of a sketch end up in it, between a save and a
restore.  The operations of a frame are a list that depends on the recording by its size only.

## Main definitions

* `Sketch.recorded`, `Scene.recorded` : the operations of a sketch and of a scene.
* `Painter.recorded` : the operations of a frame.
* `Recording.Adds` : a recording after some more operations.

## Main results

* `Recording.adds_paint` : painting a frame adds its operations to those noted before.
* `Recording.report_drawAll` : the report counts the faults of the figures.
-/

namespace SceneLoop

/-- The operations that draw a sketch. -/
def Sketch.recorded (sketch : Sketch) : List Op :=
  .save :: sketch.ops ++ [.restore]

/-- The operations that draw a scene as it is at a scene time. -/
def Scene.recorded (palette : Palette) (t : Duration) (scene : Scene) : List Op :=
  scene.layers.flatMap fun l => (Figure.sketch palette l.kind (l.propsAt t.millis)).recorded

/-- The operations that paint a frame of a size. -/
def Painter.recorded (p : Painter) (scene : Option Scene) (elapsed : Duration)
    (trace : Option String) (size : Size) : List Op :=
  .clear :: match p.shown? scene with
    | some scene => scene.recorded p.theme.palette (scene.effectiveTime elapsed)
    | none => (p.demo.sketch p.theme.palette size elapsed trace).recorded

namespace Recording

/-- A recording after some operations: they are added to those noted before, and the size stays. -/
structure Adds (ops : List Op) (r s : Recording) : Prop where
  ops : s.ops.toList = r.ops.toList ++ ops
  size : s.size = r.size

variable {ops ops' : List Op} {r s t : Recording}

theorem Adds.refl (r : Recording) : Adds [] r r :=
  ⟨(List.append_nil _).symm, rfl⟩

theorem Adds.trans (h : Adds ops r s) (h' : Adds ops' s t) : Adds (ops ++ ops') r t :=
  ⟨by rw [h'.ops, h.ops, List.append_assoc], h'.size.trans h.size⟩

theorem adds_note (op : Op) (r : Recording) : Adds [op] r (r.note op) :=
  ⟨toList_ops_note op r, rfl⟩

theorem adds_applyAll (ops : List Op) (r : Recording) : Adds ops r (Sketch.applyAll ops r).1 := by
  rw [applyAll_recording]
  induction ops generalizing r with
  | nil => exact .refl r
  | cons op rest ih => exact (adds_note op r).trans (ih (r.note op))

theorem adds_draw (sketch : Sketch) (r : Recording) : Adds sketch.recorded r (sketch.draw r).1 := by
  rw [Sketch.draw_fst]
  exact ((adds_note .save r).trans (adds_applyAll sketch.ops _)).trans (adds_note .restore _)

theorem adds_drawScene (palette : Palette) (t : Duration) (scene : Scene) (r : Recording) :
    Adds (scene.recorded palette t) r (scene.draw palette t r).1 := by
  rw [Scene.draw, Layer.drawAll_eq_foldl, Scene.recorded]
  generalize ({} : DrawReport) = report
  induction scene.layers generalizing r report with
  | nil => exact .refl r
  | cons l rest ih => exact (adds_draw _ r).trans (ih _ _)

/-- Painting a frame adds its operations to those noted before. -/
theorem adds_paint (p : Painter) (scene : Option Scene) (elapsed : Duration)
    (trace : Option String) (r : Recording) :
    Adds (p.recorded scene elapsed trace r.size) r (p.paint scene elapsed trace r).1 := by
  rw [Painter.recorded, ← List.singleton_append, Painter.paint]
  refine (adds_note .clear r).trans ?_
  cases p.shown? scene with
  | some scene => exact adds_drawScene _ _ scene _
  | none => exact adds_draw _ _

/-- A recording refuses nothing, so what fails is a fault of the sketch. -/
theorem fault_draw (sketch : Sketch) (r : Recording) : (sketch.draw r).2 = sketch.fault := by
  rw [Sketch.draw_snd, applyAll_recording]
  exact Option.none_or

/-- The report on layers that are recorded counts the faults of their figures. -/
theorem report_drawAll (palette : Palette) (t : Float) (layers : List Layer) (r : Recording) :
    (Layer.drawAll palette t layers r).2 =
      layers.foldl
        (fun report l => report.count (Figure.sketch palette l.kind (l.propsAt t)).fault) {} :=
  Layer.snd_drawAll (P := fun _ => True) (fun _ _ _ => trivial) (fun _ s _ => fault_draw _ s) layers
    trivial

end Recording

end SceneLoop
