import SceneLoop.Proofs.Drawing.Recorded
import SceneLoop.Scene.Builder

/-!
# The blocks of a frame

A frame that shows a scene is recorded as a clear and then one block of operations for each layer,
from bottom to top.  A block is given by its layer, the scene time and the theme, and what a layer
does to the drawing state stays within its block.  Only a circle of negative radius fails, and then
nothing of its block paints.

## Main definitions

* `Layer.block` : the operations of a layer.
* `Layer.hasNegativeRadius` : circles of negative radius.
* `Op.IsBlock`, `Op.IsFailedBlock` : operations between a save and a restore, and those of a layer
  that fails.

## Main results

* `Recording.fails_drawLayer_iff` : only circles of negative radius fail.
* `Layer.isBlock_block`, `Layer.isFailedBlock_block` : the form of the blocks.
* `Painter.paint_layerwise` : a frame is recorded layer by layer.
-/

namespace SceneLoop

/-- Operations between a save and a restore, with no other save or restore. -/
def Op.IsBlock (ops : List Op) : Prop :=
  ∃ body : List Op, ops = .save :: body ++ [.restore] ∧ ∀ op ∈ body, op.isBracket = false

/-- The operations of a layer that fails: it is placed, by one translation at most, and its opacity
is set. -/
def Op.IsFailedBlock (ops : List Op) : Prop :=
  ∃ (moves : List Op) (opacity : Float), ops = .save :: moves ++ [.globalAlpha opacity, .restore] ∧
    moves.length ≤ 1 ∧ ∀ op ∈ moves, ∃ dx dy, op = .translate dx dy

namespace Layer

/-- The operations of a layer as it is at a scene time, in a theme. -/
def block (theme : Theme) (t : Duration) (l : Layer) : List Op :=
  (Figure.sketch theme.palette l.kind (l.propsAt t.millis)).recorded

/-- Whether the layer is a circle whose radius at a scene time is negative.  The radius is `r` where
that is a number, else `radius`, else twenty. -/
def hasNegativeRadius (t : Duration) (l : Layer) : Bool :=
  let p := l.propsAt t.millis
  l.kind = .circle && decide (((p.number? .r).or (p.number? .radius)).getD 20 < 0)

end Layer

/-! ### Figures that fail -/

namespace Figure

theorem radius_eq (p : Props) : radius p = ((p.number? .r).or (p.number? .radius)).getD 20 := by
  simp only [radius, Props.firstNumber?, List.findSome?]
  cases p.number? .r <;> cases p.number? .radius <;> rfl

/-- Only the sketch of a circle of negative radius has a fault. -/
theorem isSome_fault_sketch_iff (palette : Palette) (kind : LayerKind) (p : Props) :
    (sketch palette kind p).fault.isSome ↔ kind = .circle ∧ radius p < 0 := by
  cases kind with
  | circle =>
    simp only [sketch, shape, circle, true_and]
    split <;> simp_all
  | rect | line | text | label | unknown => simp [sketch, shape, rect, line, text, marker]

/-- The sketch of a circle of negative radius places it and sets its opacity. -/
theorem ops_sketch_of_fault {palette : Palette} {kind : LayerKind} {p : Props}
    (h : (sketch palette kind p).fault.isSome) : (sketch palette kind p).ops = placement p := by
  obtain ⟨rfl, hradius⟩ := (isSome_fault_sketch_iff palette kind p).1 h
  simp only [sketch, shape, circle, if_pos hradius, List.append_nil]

/-- A layer is placed by one translation at most. -/
theorem exists_placement (p : Props) :
    ∃ (moves : List Op) (opacity : Float), placement p = moves ++ [.globalAlpha opacity] ∧
      moves.length ≤ 1 ∧ ∀ op ∈ moves, ∃ dx dy, op = .translate dx dy := by
  refine ⟨_, _, rfl, ?_⟩
  split
  · simp
  · simp

end Figure

/-! ### Blocks -/

namespace Layer

theorem isSome_fault_eq (palette : Palette) (t : Duration) (l : Layer) :
    (Figure.sketch palette l.kind (l.propsAt t.millis)).fault.isSome = l.hasNegativeRadius t := by
  rw [Bool.eq_iff_iff, Figure.isSome_fault_sketch_iff, Figure.radius_eq]
  simp [hasNegativeRadius]

/-- A block begins with a save and ends with the restore, and has no others. -/
theorem isBlock_block (theme : Theme) (t : Duration) (l : Layer) : Op.IsBlock (l.block theme t) :=
  ⟨_, rfl, Figure.isBracket_sketch theme.palette l.kind (l.propsAt t.millis)⟩

/-- The block of a circle of negative radius paints nothing. -/
theorem isFailedBlock_block (theme : Theme) {t : Duration} {l : Layer}
    (h : l.hasNegativeRadius t) : Op.IsFailedBlock (l.block theme t) := by
  obtain ⟨moves, opacity, hplacement, hmoves⟩ := Figure.exists_placement (l.propsAt t.millis)
  have hops := Figure.ops_sketch_of_fault ((isSome_fault_eq theme.palette t l).trans h)
  refine ⟨moves, opacity, ?_, hmoves⟩
  rw [block, Sketch.recorded, hops, hplacement]
  simp

end Layer

namespace Recording

/-- Drawing a layer adds its block to the operations noted before. -/
theorem ops_drawLayer (theme : Theme) (t : Duration) (l : Layer) (r : Recording) :
    (l.draw theme.palette t.millis r).1.ops.toList = r.ops.toList ++ l.block theme t :=
  (adds_draw _ r).ops

/-- Of the layers that are recorded, only circles of negative radius fail. -/
theorem fails_drawLayer_iff (palette : Palette) (t : Duration) (l : Layer) (r : Recording) :
    (l.draw palette t.millis r).2.isSome ↔ l.hasNegativeRadius t := by
  rw [Layer.draw, fault_draw, Layer.isSome_fault_eq]

/-- The report on layers that are recorded counts the circles of negative radius. -/
theorem report_drawAll_eq (palette : Palette) (t : Duration) (layers : List Layer) (r : Recording) :
    (Layer.drawAll palette t.millis layers r).2 =
      ⟨layers.countP fun l => !l.hasNegativeRadius t, layers.countP (·.hasNegativeRadius t)⟩ := by
  rw [report_drawAll, DrawReport.foldl_count]
  simp only [Nat.zero_add, Layer.isSome_fault_eq]

end Recording

/-! ### Frames -/

namespace Painter

variable {p : Painter} {scene : Scene}

/-- A scene that is shown is recorded block by block. -/
theorem ops_paint_of_shown (h : p.showsDemo (some scene) = false) (elapsed : Duration)
    (trace : Option String) (size : Size) :
    (p.paint (some scene) elapsed trace (Recording.ofSize size)).1.ops.toList =
      .clear :: scene.layers.flatMap (Layer.block p.theme (scene.effectiveTime elapsed)) := by
  rw [(Recording.adds_paint p _ elapsed trace _).ops, recorded, shown?, h]
  rfl

/-- What was painted is the report on the layers of a scene that is shown. -/
theorem painted_of_shown (h : p.showsDemo (some scene) = false) (elapsed : Duration)
    (trace : Option String) (size : Size) :
    (p.paint (some scene) elapsed trace (Recording.ofSize size)).2 =
      .scene ⟨scene.layers.countP fun l => !l.hasNegativeRadius (scene.effectiveTime elapsed),
        scene.layers.countP (·.hasNegativeRadius (scene.effectiveTime elapsed))⟩ := by
  rw [paint, shown?, h]
  exact congrArg Painted.scene (Recording.report_drawAll_eq p.theme.palette _ scene.layers _)

/-- **A frame is recorded layer by layer.**  Paint a scene that is not shown as the demo on a fresh
recording.  The operations are a clear and then one block for each layer, in order.  A block is what
drawing its layer in the theme at the scene time adds to any recording; it begins with a save, ends
with a restore, and holds no other.  Drawing a layer fails if and only if it is a circle of negative
radius, and then its block only places it and sets its opacity.  What was painted counts the two
kinds of layers, and the layers of a scene put together from two lists are recorded one list after
the other. -/
theorem paint_layerwise (h : p.showsDemo (some scene) = false) (elapsed : Duration)
    (trace : Option String) (size : Size) :
    let t := scene.effectiveTime elapsed
    let painted := p.paint (some scene) elapsed trace (Recording.ofSize size)
    painted.1.ops.toList = .clear :: scene.layers.flatMap (Layer.block p.theme t) ∧
      (∀ l : Layer,
        Op.IsBlock (l.block p.theme t) ∧
        (l.hasNegativeRadius t → Op.IsFailedBlock (l.block p.theme t)) ∧
        ∀ r : Recording,
          (l.draw p.theme.palette t.millis r).1.ops.toList =
            r.ops.toList ++ l.block p.theme t ∧
          ((l.draw p.theme.palette t.millis r).2.isSome ↔ l.hasNegativeRadius t)) ∧
      painted.2 = .scene
        ⟨scene.layers.countP fun l => !l.hasNegativeRadius t,
          scene.layers.countP (·.hasNegativeRadius t)⟩ ∧
      ∀ below above : List Layer, scene.layers = below ++ above →
        painted.1.ops.toList = .clear :: (below.flatMap (Layer.block p.theme t) ++
          above.flatMap (Layer.block p.theme t)) := by
  intro t painted
  have hops := ops_paint_of_shown h elapsed trace size
  refine ⟨hops, fun l => ⟨l.isBlock_block p.theme t, l.isFailedBlock_block p.theme, fun r => ?_⟩,
    painted_of_shown h elapsed trace size, fun below above hlayers => ?_⟩
  · exact ⟨r.ops_drawLayer p.theme t l, r.fails_drawLayer_iff p.theme.palette t l⟩
  · rw [← List.flatMap_append, ← hlayers]
    exact hops

/-- A marker, a disc of negative radius away from the origin, and a rectangle. -/
theorem paint_layerwise_disc :
    let disc := ((Layer.ofKind .circle).withPosition 3 4).withNumber .r (-1)
    let scene := Scene.ofLayers 4000 [.ofKind (.unknown "star"), disc, .ofKind .rect]
    let p := Painter.ofSettings default
    let painted := p.paint (some scene) .zero none (Recording.ofSize ⟨400, 300⟩)
    p.showsDemo (some scene) = false ∧ disc.hasNegativeRadius .zero ∧
      painted.1.ops.toList =
        [.clear,
          .save, .globalAlpha 1, .fillStyle p.theme.palette.placeholder,
          .fillRect (-10) (-10) 20 20, .restore,
          .save, .translate 3 4, .globalAlpha 1, .restore,
          .save, .globalAlpha 1, .fillStyle p.theme.palette.fill, .fillRect 0 0 50 50, .restore] ∧
      painted.2 = .scene ⟨2, 1⟩ := by
  intro disc scene p painted
  have hshown : p.showsDemo (some scene) = false := rfl
  obtain ⟨hops, -, hpainted, -⟩ := paint_layerwise hshown .zero none ⟨400, 300⟩
  exact ⟨hshown, by decide +kernel, hops.trans (by decide +kernel),
    hpainted.trans (by decide +kernel)⟩

end Painter

end SceneLoop
