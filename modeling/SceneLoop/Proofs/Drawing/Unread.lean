import Mathlib.Data.List.Forall2
import SceneLoop.Proofs.Drawing.Agreement

/-!
# What drawing does not read

A figure is made from the values of known keys.  The other fields of a layer have no part in it, nor
do animations of properties with unknown names: these only change other fields.  So scenes that
differ in nothing else ask a surface for the same operations.

## Main definitions

* `Layer.SameKnown`, `Scene.SameKnown` : layers and scenes that differ in what is not read.
* `Layer.SameFigure` : layers that have the same figure at a scene time.

## Main results

* `Layer.SameKnown.known_propsAt` : animations of unknown properties leave the known keys alone.
* `Painter.paint_congr_at`, `Painter.paint_congr` : scenes with the same figures are painted alike.
* `Painter.unknown_fields_unread` : unknown fields and animations have no part in drawing.
-/

namespace SceneLoop

/-- Whether the animation is of a property that drawing knows, by the name of its key or by another
spelling. -/
def Animation.isKnown (a : Animation) : Bool :=
  (PropKey.lookup a.property).isSome

/-- Layers that differ only in the other fields of their properties, and in animations of properties
with unknown names, be they more, fewer or elsewhere among the others. -/
structure Layer.SameKnown (l m : Layer) : Prop where
  kind : l.kind = m.kind
  known : l.props.known = m.props.known
  animations : l.animations.filter Animation.isKnown = m.animations.filter Animation.isKnown

/-- Scenes with the same loop whose layers differ only in what drawing does not read. -/
structure Scene.SameKnown (a b : Scene) : Prop where
  period : a.period = b.period
  layers : List.Forall₂ Layer.SameKnown a.layers b.layers

/-! ### Properties over time -/

namespace Layer

/-- An animation of an unknown property leaves the known keys alone. -/
theorem known_animate_of_unknown {a : Animation} (h : a.isKnown = false) (t : Float) (p : Props) :
    (animate t p a).known = p.known := by
  have hlookup : PropKey.lookup a.property = none := by
    simpa [Animation.isKnown] using h
  simp only [animate]
  split
  · simp only [Props.setNumber, hlookup]
    rfl
  · rfl

/-- What an animation gives the known keys does not depend on the other fields. -/
theorem known_animate_congr {p q : Props} (h : p.known = q.known) (t : Float) (a : Animation) :
    (animate t p a).known = (animate t q a).known := by
  simp only [animate]
  split
  · simp only [Props.setNumber]
    split
    · simp only [Props.set, h]
    · exact h
  · exact h

/-- For the known keys, animations of unknown properties may be left out. -/
theorem known_foldl_animate (t : Float) (as : List Animation) {p q : Props}
    (h : p.known = q.known) :
    (as.foldl (animate t) p).known =
      ((as.filter Animation.isKnown).foldl (animate t) q).known := by
  induction as generalizing p q with
  | nil => exact h
  | cons a rest ih =>
    cases ha : a.isKnown with
    | true =>
      rw [List.filter_cons_of_pos ha]
      exact ih (known_animate_congr h t a)
    | false =>
      rw [List.filter_cons_of_neg (by simp [ha])]
      exact ih ((known_animate_of_unknown ha t p).trans h)

theorem SameKnown.known_propsAt {l m : Layer} (h : l.SameKnown m) (t : Float) :
    (l.propsAt t).known = (m.propsAt t).known := by
  rw [propsAt, propsAt, known_foldl_animate t l.animations h.known, h.animations,
    ← known_foldl_animate t m.animations rfl]

end Layer

/-! ### Figures -/

/-- A figure is made from the values of known keys. -/
theorem Figure.sketch_congr (palette : Palette) (kind : LayerKind) {p q : Props}
    (h : p.known = q.known) : sketch palette kind p = sketch palette kind q := by
  obtain ⟨known, extra⟩ := p
  obtain ⟨known', extra'⟩ := q
  obtain rfl : known = known' := h
  cases kind <;> rfl

/-- Layers that have the same figure at a scene time. -/
def Layer.SameFigure (palette : Palette) (t : Float) (l m : Layer) : Prop :=
  Figure.sketch palette l.kind (l.propsAt t) = Figure.sketch palette m.kind (m.propsAt t)

theorem Layer.SameKnown.sameFigure {l m : Layer} (h : l.SameKnown m) (palette : Palette)
    (t : Float) : l.SameFigure palette t m := by
  rw [SameFigure, h.kind, Figure.sketch_congr palette m.kind (h.known_propsAt t)]

/-! ### Painting -/

variable {σ : Type} [Surface σ]

/-- Layers with the same figures are drawn alike. -/
theorem Layer.drawAll_congr {palette : Palette} {t : Float} {layers layers' : List Layer}
    (h : List.Forall₂ (SameFigure palette t) layers layers') (s : σ) :
    drawAll palette t layers s = drawAll palette t layers' s := by
  rw [drawAll_eq_foldl, drawAll_eq_foldl]
  generalize ({} : DrawReport) = report
  induction h generalizing s report with
  | nil => rfl
  | cons hfigure _ ih =>
    rw [List.foldl_cons, List.foldl_cons, drawNext, drawNext, draw, draw, hfigure]
    exact ih _ _

/-- Scenes with the same loop are painted alike at a playback time if their layers have the same
figures at the scene time. -/
theorem Painter.paint_congr_at (p : Painter) {a b : Scene} (hperiod : a.period = b.period)
    {elapsed : Duration}
    (h : List.Forall₂ (Layer.SameFigure p.theme.palette (b.effectiveTime elapsed).millis)
      a.layers b.layers)
    (trace : Option String) (s : σ) :
    p.paint (some a) elapsed trace s = p.paint (some b) elapsed trace s := by
  have hdemo : p.showsDemo (some a) = p.showsDemo (some b) := by
    have hempty : a.isEmpty = b.isEmpty := by
      rw [Bool.eq_iff_iff, Scene.isEmpty, Scene.isEmpty, List.isEmpty_iff_length_eq_zero,
        List.isEmpty_iff_length_eq_zero, h.length_eq]
    rw [showsDemo, showsDemo, hempty]
  have hdraw (u : σ) : a.draw p.theme.palette (a.effectiveTime elapsed) u =
      b.draw p.theme.palette (b.effectiveTime elapsed) u := by
    have htime : a.effectiveTime elapsed = b.effectiveTime elapsed := by
      rw [Scene.effectiveTime, Scene.effectiveTime, hperiod]
    rw [htime]
    exact Layer.drawAll_congr h u
  rw [paint, paint, shown?, shown?, hdemo]
  cases p.showsDemo (some b) with
  | true => rfl
  | false =>
    simp only [Bool.false_eq_true, if_false, hdraw]

/-- Scenes with the same loop and the same figures are painted alike. -/
theorem Painter.paint_congr (p : Painter) {a b : Scene} (hperiod : a.period = b.period)
    (h : ∀ t, List.Forall₂ (Layer.SameFigure p.theme.palette t) a.layers b.layers)
    (elapsed : Duration) (trace : Option String) (s : σ) :
    p.paint (some a) elapsed trace s = p.paint (some b) elapsed trace s :=
  p.paint_congr_at hperiod (h _) trace s

/-- **Unknown fields have no part in drawing.** Take two scenes with the same loop and the same
layers, but for the other fields of their properties and for animations of properties with unknown
names, which may stand anywhere among the others.  At every playback time and in every theme, each
surface is asked for the same operations in the same order, and the same becomes of it and of the
report. -/
theorem Painter.unknown_fields_unread {a b : Scene} (h : a.SameKnown b) (p : Painter)
    (elapsed : Duration) (trace : Option String) (s : σ) :
    p.asks (some a) elapsed trace s = p.asks (some b) elapsed trace s ∧
      p.paint (some a) elapsed trace s = p.paint (some b) elapsed trace s := by
  have hfigures (t : Float) : List.Forall₂ (Layer.SameFigure p.theme.palette t) a.layers b.layers :=
    h.layers.imp fun _ _ hlayer => hlayer.sameFigure p.theme.palette t
  have hwatched := p.paint_congr h.period hfigures elapsed trace (Watched.of s)
  obtain ⟨hsurface, hreport⟩ := Watched.paint_of p (some a) elapsed trace s
  obtain ⟨hsurface', hreport'⟩ := Watched.paint_of p (some b) elapsed trace s
  refine ⟨congrArg (·.1.asked) hwatched, Prod.ext ?_ ?_⟩
  · rw [← hsurface, hwatched, hsurface']
  · rw [← hreport, hwatched, hreport']

namespace Scene

/-- A rectangle that slides to the right, with a turn and a glow that nothing reads, and a width
that is no number. -/
def turning : Scene :=
  .ofLayers 4000 [⟨.rect,
    .ofFields [("fill", .text "tomato"), ("rotation", .text "45"), ("width", .array [])] [],
    [⟨"rotation", 0, 2000, 0, 90⟩, ⟨"x", 0, 2000, 100, 300⟩, ⟨"glow", 0, 1000, 0, 1⟩]⟩]

/-- A rectangle that slides to the right, with another animation that nothing reads. -/
def sliding : Scene :=
  .ofLayers 4000 [⟨.rect, .ofFields [("fill", .text "tomato")] [],
    [⟨"x", 0, 2000, 100, 300⟩, ⟨"tilt", 0, 500, 0, 1⟩]⟩]

end Scene

/-- The two sliding rectangles are painted alike. -/
theorem Painter.unknown_fields_unread_sliding :
    let p := (Painter.ofSettings default).withTheme .dark
    let s := Recording.ofSize ⟨400, 300⟩
    Scene.turning.SameKnown Scene.sliding ∧
      p.asks (some Scene.turning) (.ofMillis 5000) none s =
        p.asks (some Scene.sliding) (.ofMillis 5000) none s ∧
      p.paint (some Scene.turning) (.ofMillis 5000) none s =
        p.paint (some Scene.sliding) (.ofMillis 5000) none s := by
  have hlayer : List.Forall₂ Layer.SameKnown Scene.turning.layers Scene.sliding.layers :=
    .cons ⟨rfl, rfl, by decide⟩ .nil
  have h : Scene.turning.SameKnown Scene.sliding := ⟨rfl, hlayer⟩
  exact ⟨h, unknown_fields_unread h _ _ _ _⟩

end SceneLoop
