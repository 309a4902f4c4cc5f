import Mathlib
import SceneLoop.Proofs.Drawing.Recorded
import SceneLoop.Proofs.Playback.Loop
import SceneLoop.Proofs.Scene.Finite

/-!
# Finite numbers in drawing operations

The numbers of the operations that draw a layer are those of its properties, constants, and the
opacity, which is moved into its range.  So no operation of the scene of a payload has a number that
is not finite, unless an animation changes its property by more than a double can say.

## Main definitions

* `Op.numbers`, `Op.IsFinite` : the numbers of an operation.

## Main results

* `Figure.isFinite_sketch` : figures of finite properties have finite operations.
* `Painter.isFinite_paint` : so have the frames of payloads.
-/

namespace SceneLoop

/-- The coordinates, sizes, radii, angles, opacities and widths of an operation. -/
def Op.numbers : Op → List Float
  | .translate dx dy => [dx, dy]
  | .globalAlpha alpha => [alpha]
  | .lineWidth width => [width]
  | .fillRect x y width height | .strokeRect x y width height => [x, y, width, height]
  | .moveTo x y | .lineTo x y | .fillText _ x y => [x, y]
  | .arc cx cy radius start finish => [cx, cy, radius, start, finish]
  | .font spec => [spec.size]
  | .clear | .save | .restore | .fillStyle _ | .strokeStyle _ | .beginPath | .fill | .stroke
  | .textAlign _ | .textBaseline _ => []

/-- An operation whose numbers are finite. -/
def Op.IsFinite (op : Op) : Prop :=
  ∀ x ∈ op.numbers, x.isFinite

/-- An operation without numbers. -/
theorem Op.IsFinite.of_nil {op : Op} (h : op.numbers = []) : op.IsFinite := by
  rw [IsFinite, h]
  exact List.forall_mem_nil _

/-! ### Properties that are drawn -/

namespace Props

variable {p : Props}

theorem IsFinite.number?_getD (h : p.IsFinite) (k : PropKey) {x : Float} (hx : x.isFinite) :
    ((p.number? k).getD x).isFinite := by
  cases hk : p.number? k with
  | none => exact hx
  | some y => exact h.number? hk

theorem IsFinite.firstNumber?_getD (h : p.IsFinite) (keys : List PropKey) {x : Float}
    (hx : x.isFinite) : ((p.firstNumber? keys).getD x).isFinite := by
  cases hkeys : p.firstNumber? keys with
  | none => exact hx
  | some y =>
    obtain ⟨k, -, hk⟩ := List.exists_of_findSome?_eq_some hkeys
    exact h.number? hk

end Props

theorem Binary64.isFinite_clamp {x lo hi : Float} (hx : x.isFinite) (hlo : lo.isFinite)
    (hhi : hi.isFinite) : (clamp x lo hi).isFinite := by
  rw [clamp]
  split_ifs <;> assumption

/-! ### Figures -/

namespace Figure

variable {p : Props} (h : p.IsFinite)

include h

theorem isFinite_placement : ∀ op ∈ placement p, op.IsFinite := by
  have hx : ((p.number? .x).getD 0).isFinite := h.number?_getD .x (by decide)
  have hy : ((p.number? .y).getD 0).isFinite := h.number?_getD .y (by decide)
  have halpha : (Binary64.clamp ((p.number? .opacity).getD 1) 0 1).isFinite :=
    Binary64.isFinite_clamp (h.number?_getD .opacity (by decide)) (by decide) (by decide)
  simp only [placement]
  split <;> simp [Op.IsFinite, Op.numbers, hx, hy, halpha]

theorem isFinite_outline {paint : Op} (hpaint : paint.IsFinite) :
    ∀ op ∈ outline p paint, op.IsFinite := by
  have hwidth : (Op.lineWidth ((p.number? .strokeWidth).getD 1)).IsFinite := by
    simpa [Op.IsFinite, Op.numbers] using h.number?_getD .strokeWidth (by decide)
  rw [outline]
  split
  · next c _ =>
    have hcolor : (Op.strokeStyle c).IsFinite := .of_nil rfl
    simp only [List.forall_mem_cons]
    exact ⟨hcolor, hwidth, hpaint, List.forall_mem_nil _⟩
  · exact List.forall_mem_nil _

theorem isFinite_rect (palette : Palette) : ∀ op ∈ (rect palette p).ops, op.IsFinite := by
  have hwidth : ((p.number? .width).getD 50).isFinite := h.number?_getD .width (by decide)
  have hheight : ((p.number? .height).getD 50).isFinite := h.number?_getD .height (by decide)
  have hzero : (0 : Float).isFinite := by decide
  have hsides : ∀ x ∈ [0, 0, (p.number? .width).getD 50, (p.number? .height).getD 50],
      x.isFinite := by
    simp [hwidth, hheight, hzero]
  simp only [rect, List.forall_mem_append, List.forall_mem_cons]
  exact ⟨⟨.of_nil rfl, hsides, List.forall_mem_nil _⟩, isFinite_outline h hsides⟩

theorem isFinite_circle (palette : Palette) : ∀ op ∈ (circle palette p).ops, op.IsFinite := by
  have hradius : (radius p).isFinite := h.firstNumber?_getD _ (by decide)
  have hzero : (0 : Float).isFinite := by decide
  have hturn : Binary64.fullTurn.isFinite := by decide
  have harc : (Op.arc 0 0 (radius p) 0 Binary64.fullTurn).IsFinite := by
    simp [Op.IsFinite, Op.numbers, hradius, hzero, hturn]
  have hstroke : Op.stroke.IsFinite := .of_nil rfl
  simp only [circle]
  split
  · exact List.forall_mem_nil _
  · simp only [List.forall_mem_append, List.forall_mem_cons]
    exact ⟨⟨.of_nil rfl, harc, .of_nil rfl, .of_nil rfl, List.forall_mem_nil _⟩,
      isFinite_outline h hstroke⟩

theorem isFinite_line (palette : Palette) : ∀ op ∈ (line palette p).ops, op.IsFinite := by
  have hstart : ∀ x ∈ [(p.number? .x1).getD 0, (p.number? .y1).getD 0], x.isFinite := by
    simp [h.number?_getD .x1 (x := 0) (by decide), h.number?_getD .y1 (x := 0) (by decide)]
  have hfinish : ∀ x ∈ [(p.firstNumber? [.x2, .x]).getD 100, (p.firstNumber? [.y2, .y]).getD 100],
      x.isFinite := by
    simp [h.firstNumber?_getD [.x2, .x] (x := 100) (by decide),
      h.firstNumber?_getD [.y2, .y] (x := 100) (by decide)]
  have hwidth : (Op.lineWidth ((p.number? .strokeWidth).getD 2)).IsFinite := by
    simpa [Op.IsFinite, Op.numbers] using h.number?_getD .strokeWidth (by decide)
  simp only [line, List.forall_mem_cons]
  exact ⟨.of_nil rfl, hstart, hfinish, .of_nil rfl, hwidth, .of_nil rfl, List.forall_mem_nil _⟩

theorem isFinite_fontSize : (fontSize p).isFinite := by
  have hdefault : (16 : Float).isFinite := by decide
  rw [fontSize]
  split
  · next size hsize =>
    split
    · exact h.number? hsize
    · exact hdefault
  · exact hdefault

theorem isFinite_text (palette : Palette) : ∀ op ∈ (text palette p).ops, op.IsFinite := by
  have hfont : ∀ x ∈ [fontSize p], x.isFinite := by simp [isFinite_fontSize h]
  have hzero : ∀ x ∈ [(0 : Float), 0], x.isFinite := by decide
  simp only [text, List.forall_mem_cons]
  exact ⟨.of_nil rfl, hfont, .of_nil rfl, .of_nil rfl, hzero, List.forall_mem_nil _⟩

omit h in
theorem isFinite_marker (palette : Palette) : ∀ op ∈ (marker palette).ops, op.IsFinite := by
  have hsides : ∀ x ∈ [(-10 : Float), -10, 20, 20], x.isFinite := by decide
  simp only [marker, List.forall_mem_cons]
  exact ⟨.of_nil rfl, hsides, List.forall_mem_nil _⟩

/-- The operations of a layer with finite properties have finite numbers. -/
theorem isFinite_sketch (palette : Palette) (kind : LayerKind) :
    ∀ op ∈ (sketch palette kind p).ops, op.IsFinite := by
  rw [sketch, List.forall_mem_append]
  refine ⟨isFinite_placement h, ?_⟩
  cases kind with
  | rect => exact isFinite_rect h palette
  | circle => exact isFinite_circle h palette
  | line => exact isFinite_line h palette
  | text | label => exact isFinite_text h palette
  | unknown name => exact isFinite_marker palette

end Figure

/-! ### Frames -/

theorem Sketch.isFinite_recorded {sketch : Sketch} (h : ∀ op ∈ sketch.ops, op.IsFinite) :
    ∀ op ∈ sketch.recorded, op.IsFinite := by
  rw [recorded, List.forall_mem_append, List.forall_mem_cons]
  exact ⟨⟨.of_nil rfl, h⟩, List.forall_mem_singleton.2 (.of_nil rfl)⟩

namespace Scene

variable {s : Scene}

/-- The scene time is at most the period, which fits a word. -/
theorem abs_value_effectiveTime {elapsed : Duration} (h : elapsed.IsProper) :
    |Binary64.value (s.effectiveTime elapsed).millis| ≤ 2 ^ (64 : ℤ) := by
  have hle : (s.effectiveTime elapsed).millis ≤ s.period.toFloat :=
    Duration.wrap_le s.period_ne_zero (Binary64.isNaN_of_isFinite h.isFinite)
  have hzero : 0 ≤ (s.effectiveTime elapsed).millis := h.wrap.zero_le
  obtain ⟨hnumber, hperiod⟩ := Binary64.isNaN_of_le hle
  rw [Binary64.le_iff_value hnumber hperiod] at hle
  rw [Binary64.le_iff_value Binary64.hasValue_zero.isNaN_eq_false hnumber,
    Binary64.hasValue_zero.value_eq] at hzero
  rw [abs_of_nonneg hzero]
  exact hle.trans (Binary64.value_toFloat_le s.period)

theorem isFinite_recorded (h : ∀ l ∈ s.layers, l.IsFinite)
    (hrange : ∀ l ∈ s.layers, ∀ a ∈ l.animations, a.InRange) (palette : Palette)
    {elapsed : Duration} (helapsed : elapsed.IsProper) :
    ∀ op ∈ s.recorded palette (s.effectiveTime elapsed), op.IsFinite := by
  intro op hop
  obtain ⟨l, hl, hop⟩ := List.mem_flatMap.1 hop
  have hprops := (h l hl).propsAt (hrange l hl) helapsed.wrap.isFinite
    (s.abs_value_effectiveTime helapsed)
  exact Sketch.isFinite_recorded (Figure.isFinite_sketch hprops palette l.kind) op hop

end Scene

/-- **Only finite numbers reach a surface.** Take the scene of a payload, and let the change that
each of its animations makes be finite, also when it is added to the first value.  At every playback
time at which the scene itself is painted, all numbers of the operations that a recording takes note
of are finite. -/
theorem Painter.isFinite_paint {n : Normalizer} {payload : Json} {scene : Scene}
    (hscene : (n.normalize payload).scene = some scene)
    (hrange : ∀ l ∈ scene.layers, ∀ a ∈ l.animations, a.InRange) {p : Painter}
    (hshown : p.showsDemo (some scene) = false) {elapsed : Duration} (helapsed : elapsed.IsProper)
    (trace : Option String) (size : Size) :
    ∀ op ∈ (p.paint (some scene) elapsed trace (Recording.ofSize size)).1.ops.toList,
      ∀ x ∈ op.numbers, x.isFinite := by
  have hops := (Recording.adds_paint p (some scene) elapsed trace (Recording.ofSize size)).ops
  have hrecorded := Scene.isFinite_recorded (Normalizer.isFinite_of_normalize hscene) hrange
    p.theme.palette helapsed
  rw [hops, Painter.recorded, Painter.shown?, hshown]
  intro op hop
  simp only [Recording.ofSize, List.nil_append, List.mem_cons, Bool.false_eq_true, if_false] at hop
  rcases hop with rfl | hop
  · exact Op.IsFinite.of_nil rfl
  · exact hrecorded op hop

/-- The payload of a rectangle that moves to the right, from a number to another one. -/
def Json.moving (initial final : Float) : Json :=
  .object [("duration", .number (.integer 1000)),
    ("layers", .array [.object [
      ("animations", .array [.object [("end", .number (.integer 1000)),
        ("from", .number (.real initial)), ("property", .text "x"),
        ("start", .number (.integer 0)), ("to", .number (.real final))]]),
      ("type", .text "rect")]])]

/-- The scene of the moving rectangle. -/
def Scene.moving (initial final : Float) : Scene :=
  .ofLayers 1000 [⟨.rect, .empty, [⟨"x", 0, 1000, initial, final⟩]⟩]

theorem Json.normalize_moving {initial final : Float} (hinitial : initial.isFinite)
    (hfinal : final.isFinite) :
    ((default : Normalizer).normalize (.moving initial final)).scene =
      some (.moving initial final) := by
  have hkind : LayerKind.ofName "rect" = .rect := by cbv
  change some (Scene.ofLayers 1000 [⟨LayerKind.ofName "rect", .empty,
    [⟨"x", 0, 1000, (if initial.isFinite then some initial else none).getD 0,
      (if final.isFinite then some final else none).getD _⟩]⟩]) = _
  rw [if_pos hinitial, if_pos hfinal, hkind]
  rfl

theorem Painter.isFinite_paint_moving :
    let p := Painter.ofSettings default
    let elapsed := Duration.ofMillis 250
    let r := Recording.ofSize ⟨400, 300⟩
    ((default : Normalizer).normalize (.moving 50 60)).scene = some (.moving 50 60) ∧
      (∀ l ∈ (Scene.moving 50 60).layers, ∀ a ∈ l.animations, a.InRange) ∧
      p.showsDemo (some (.moving 50 60)) = false ∧ elapsed.IsProper ∧
      ∀ op ∈ (p.paint (some (.moving 50 60)) elapsed none r).1.ops.toList,
        ∀ x ∈ op.numbers, x.isFinite := by
  have hscene : ((default : Normalizer).normalize (.moving 50 60)).scene = some (.moving 50 60) :=
    Json.normalize_moving (by decide) (by decide)
  have hrange : ∀ l ∈ (Scene.moving 50 60).layers, ∀ a ∈ l.animations, a.InRange := by
    intro l hl a ha
    obtain rfl := List.mem_singleton.1 hl
    obtain rfl := List.mem_singleton.1 ha
    exact ⟨by decide, by decide⟩
  have hproper := Duration.isProper_ofMillis 250
  exact ⟨hscene, hrange, rfl, hproper, isFinite_paint hscene hrange rfl hproper none _⟩

/-- A change that is too large for a double puts what is not a number among the coordinates. -/
theorem Painter.exists_not_isFinite_paint :
    ∃ (payload : Json) (scene : Scene),
      ((default : Normalizer).normalize payload).scene = some scene ∧
        (Painter.ofSettings default).showsDemo (some scene) = false ∧ Duration.zero.IsProper ∧
        ∃ op ∈ ((Painter.ofSettings default).paint (some scene) .zero none
          (Recording.ofSize ⟨400, 300⟩)).1.ops.toList, ∃ x ∈ op.numbers, x.isFinite = false :=
  ⟨.moving (-1e308) 1e308, .moving (-1e308) 1e308,
    Json.normalize_moving (by decide +kernel) (by decide +kernel), rfl, Duration.isProper_zero,
    by decide +kernel⟩

end SceneLoop
