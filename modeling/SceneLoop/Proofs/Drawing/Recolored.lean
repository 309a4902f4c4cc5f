import Mathlib.Data.List.Forall2
import SceneLoop.Proofs.Drawing.Recorded
import SceneLoop.Scene.Builder

/-!
# What a theme changes

A theme gives the colors that stand in for missing ones.  It has no part in which operations are
drawn, nor in their order, nor in what fails; and it has no part at all in a layer that names the
color that the theme would stand in for.

## Main definitions

* `Op.SameButColor` : operations that agree, but for the color of a style.
* `Sketch.Recolored` : sketches that agree, but for the colors of styles.
* `Figure.namesColor` : whether a figure needs no color of the theme.

## Main results

* `Figure.recolored_sketch`, `DemoSettings.recolored_sketch` : palettes change colors only.
* `Figure.sketch_of_namesColor` : palettes do not change a figure that names its color.
* `Painter.theme_changes_colors` : a theme changes default colors only.
-/

namespace SceneLoop

/-- Operations that agree, but for the color of a style. -/
inductive Op.SameButColor : Op → Op → Prop
  | same (op : Op) : SameButColor op op
  | fillStyle (c d : Color) : SameButColor (.fillStyle c) (.fillStyle d)
  | strokeStyle (c d : Color) : SameButColor (.strokeStyle c) (.strokeStyle d)

instance : Std.Refl Op.SameButColor := ⟨.same⟩

/-- Sketches that agree, but for the colors of styles. -/
structure Sketch.Recolored (a b : Sketch) : Prop where
  ops : List.Forall₂ Op.SameButColor a.ops b.ops
  fault : a.fault = b.fault

theorem Sketch.Recolored.recorded {a b : Sketch} (h : a.Recolored b) :
    List.Forall₂ Op.SameButColor a.recorded b.recorded :=
  List.rel_append (.cons (.same .save) h.ops) (List.forall₂_refl [Op.restore])

/-! ### Figures -/

namespace Figure

theorem recolored_shape (palette palette' : Palette) (p : Props) (kind : LayerKind) :
    (shape palette p kind).Recolored (shape palette' p kind) := by
  cases kind with
  | rect | text | label => exact ⟨.cons (.fillStyle _ _) (List.forall₂_refl _), rfl⟩
  | circle =>
    simp only [shape, circle]
    split
    · exact ⟨.nil, rfl⟩
    · refine ⟨?_, rfl⟩
      exact .cons (.same _) (.cons (.same _) (.cons (.fillStyle _ _) (List.forall₂_refl _)))
  | line =>
    refine ⟨.cons (.same _) (.cons (.same _) (.cons (.same _) ?_)), rfl⟩
    exact .cons (.strokeStyle _ _) (List.forall₂_refl _)
  | unknown => exact ⟨.cons (.fillStyle _ _) (List.forall₂_refl _), rfl⟩

/-- Palettes change the colors of a figure only. -/
theorem recolored_sketch (palette palette' : Palette) (kind : LayerKind) (p : Props) :
    (sketch palette kind p).Recolored (sketch palette' kind p) := by
  have hshape := recolored_shape palette palette' p kind
  exact ⟨List.rel_append (List.forall₂_refl (placement p)) hshape.ops, hshape.fault⟩

/-- Whether a figure names the color that a palette would stand in for: the color of its inside or,
for a line, of its stroke. -/
def namesColor (p : Props) : LayerKind → Bool
  | .rect | .circle | .text | .label => (color? p .fill).isSome
  | .line => (color? p .stroke).isSome
  | .unknown _ => false

/-- Palettes do not change a figure that names its color. -/
theorem sketch_of_namesColor {kind : LayerKind} {p : Props} (h : namesColor p kind)
    (palette palette' : Palette) : sketch palette kind p = sketch palette' kind p := by
  cases kind with
  | rect | circle | text | label =>
    obtain ⟨c, hc⟩ := Option.isSome_iff_exists.1 h
    simp only [sketch, shape, rect, circle, text, hc, Option.getD_some]
  | line =>
    obtain ⟨c, hc⟩ := Option.isSome_iff_exists.1 h
    simp only [sketch, shape, line, hc, Option.getD_some]
  | unknown => cases h

end Figure

/-! ### The demo -/

/-- Palettes change the colors of the demo only. -/
theorem DemoSettings.recolored_sketch (d : DemoSettings) (palette palette' : Palette) (size : Size)
    (elapsed : Duration) (trace : Option String) :
    (d.sketch palette size elapsed trace).Recolored (d.sketch palette' size elapsed trace) := by
  refine ⟨.cons (.same _) (.cons (.same _) (.cons (.fillStyle _ _) ?_)), rfl⟩
  exact .cons (.same _) (.cons (.fillStyle _ _) (List.forall₂_refl _))

/-! ### Frames -/

theorem Scene.recolored_recorded (palette palette' : Palette) (t : Duration) (scene : Scene) :
    List.Forall₂ Op.SameButColor (scene.recorded palette t) (scene.recorded palette' t) := by
  refine List.rel_flatMap (R := Eq) (List.forall₂_refl scene.layers) ?_
  rintro l _ rfl
  exact (Figure.recolored_sketch palette palette' l.kind (l.propsAt t.millis)).recorded

/-- The operations of a frame in two themes. -/
theorem Painter.recolored_recorded (p : Painter) (theme theme' : Theme) (scene : Option Scene)
    (elapsed : Duration) (trace : Option String) (size : Size) :
    List.Forall₂ Op.SameButColor ((p.withTheme theme).recorded scene elapsed trace size)
      ((p.withTheme theme').recorded scene elapsed trace size) := by
  have hshown (theme : Theme) : (p.withTheme theme).shown? scene = p.shown? scene := rfl
  rw [Painter.recorded, Painter.recorded, hshown, hshown]
  refine .cons (.same .clear) ?_
  cases p.shown? scene with
  | some scene => exact scene.recolored_recorded _ _ _
  | none => exact (p.demo.recolored_sketch _ _ size elapsed trace).recorded

/-- What is painted in two themes, as it is reported. -/
theorem Painter.report_paint_withTheme (p : Painter) (theme theme' : Theme) (scene : Option Scene)
    (elapsed : Duration) (trace : Option String) (r : Recording) :
    ((p.withTheme theme).paint scene elapsed trace r).2 =
      ((p.withTheme theme').paint scene elapsed trace r).2 := by
  have hshown (theme : Theme) : (p.withTheme theme).shown? scene = p.shown? scene := rfl
  rw [paint, paint, hshown, hshown]
  cases p.shown? scene with
  | some scene =>
    refine congrArg Painted.scene ?_
    rw [Scene.draw, Scene.draw, Recording.report_drawAll, Recording.report_drawAll]
    congr 1
    funext report l
    rw [(Figure.recolored_sketch _ theme'.palette l.kind _).fault]
    rfl
  | none => rfl

variable {σ : Type} [Surface σ]

/-- **A theme changes default colors only.** With any settings, for any scene or none, any playback
time and any trace, a frame in the light theme and the same frame in the dark theme are reported
alike, and the operations on a recording agree one by one, but for the colors of styles.  A layer
that names the color that the theme would stand in for, a parseable fill or, for a line, a parseable
stroke, is drawn alike on any surface. -/
theorem Painter.theme_changes_colors :
    (∀ (s : Settings) (scene : Option Scene) (elapsed : Duration) (trace : Option String)
      (r : Recording),
      let painted (theme : Theme) :=
        ((Painter.ofSettings s).withTheme theme).paint scene elapsed trace r
      (painted .light).2 = (painted .dark).2 ∧
        List.Forall₂ Op.SameButColor (painted .light).1.ops.toList
          (painted .dark).1.ops.toList) ∧
    ∀ (l : Layer) (t : Float), Figure.namesColor (l.propsAt t) l.kind →
      ∀ s : σ, l.draw Theme.light.palette t s = l.draw Theme.dark.palette t s := by
  refine ⟨fun s scene elapsed trace r => ⟨?_, ?_⟩, fun l t h s => ?_⟩
  · exact (Painter.ofSettings s).report_paint_withTheme .light .dark scene elapsed trace r
  · rw [(Recording.adds_paint _ scene elapsed trace r).ops,
      (Recording.adds_paint _ scene elapsed trace r).ops]
    exact List.rel_append (List.forall₂_refl r.ops.toList)
      ((Painter.ofSettings s).recolored_recorded .light .dark scene elapsed trace r.size)
  · rw [Layer.draw, Layer.draw, Figure.sketch_of_namesColor h]

/-- A blue rectangle and a line that has no stroke, in both themes. -/
theorem Painter.theme_changes_colors_blue :
    let blue := (Layer.ofKind .rect).withFill "#3b82f6"
    let bare := Layer.ofKind .line
    let s := Recording.ofSize ⟨400, 300⟩
    Figure.namesColor (blue.propsAt 0) blue.kind ∧
      blue.draw Theme.light.palette 0 s = blue.draw Theme.dark.palette 0 s ∧
      ¬ Figure.namesColor (bare.propsAt 0) bare.kind := by
  have h : Figure.namesColor (((Layer.ofKind .rect).withFill "#3b82f6").propsAt 0) .rect := by
    decide +kernel
  exact ⟨h, theme_changes_colors.2 _ 0 h _, by decide +kernel⟩

end SceneLoop
