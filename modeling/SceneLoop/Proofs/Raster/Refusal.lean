import SceneLoop.Proofs.Drawing.Agreement
import SceneLoop.Proofs.Raster.Painting
import SceneLoop.Scene.Builder

/-!
# Layers that cannot be drawn

A canvas refuses two operations, an arc of negative radius and a text that is too large, and then
stays as it is.  Figures ask for these before they paint anything, so a layer that cannot be drawn
leaves no pixel behind.  What a canvas refuses depends on its setting and its drawing state alone,
which layers do not change, so that the layers that can be drawn are the same with and without the
others.

## Main definitions

* `Op.paints` : the operations that may change pixels.
* `Canvas.mayRefuse` : the operations that a canvas may refuse.
* `Sketch.FailsUnpainted` : sketches that meet their faults before they paint.
* `Layer.fails`, `Scene.withoutFailing` : layers that cannot be drawn, and a scene without them.

## Main results

* `Figure.failsUnpainted_sketch` : figures meet their faults before they paint.
* `Canvas.sameButPath_draw_of_fault` : what cannot be drawn changes the path only.
* `Canvas.isAgreement_sameState` : pixels and paths have no part in what is refused.
* `Canvas.draw_withoutFailing` : layers that cannot be drawn cost the others nothing.
-/

namespace SceneLoop

/-- The operations that may change pixels. -/
def Op.paints : Op → Bool
  | .clear | .fillRect .. | .strokeRect .. | .fill | .stroke | .fillText .. => true
  | _ => false

/-- The operations that a canvas may refuse. -/
def Canvas.mayRefuse : Op → Bool
  | .arc .. | .fillText .. => true
  | _ => false

/-- Whether no operation that a canvas may refuse comes after one that paints. -/
def Op.paintsLast : List Op → Bool
  | [] => true
  | op :: rest => if op.paints then rest.all fun op => !Canvas.mayRefuse op else paintsLast rest

theorem Op.paintsLast_cons {op : Op} {rest : List Op} (h : paintsLast (op :: rest)) :
    (∀ op ∈ rest, Canvas.mayRefuse op = false) ∨ op.paints = false ∧ paintsLast rest := by
  rw [paintsLast] at h
  split at h
  · exact .inl (by simpa using h)
  · exact .inr ⟨by simpa using ‹¬op.paints›, h⟩

/-- Sketches that meet their faults before they paint. -/
structure Sketch.FailsUnpainted (sketch : Sketch) : Prop where
  /-- What a canvas may refuse comes first. -/
  paintsLast : Op.paintsLast sketch.ops
  /-- Nothing is painted before a fault of its own. -/
  unpainted : sketch.fault.isSome → ∀ op ∈ sketch.ops, op.paints = false

/-! ### Figures -/

namespace Figure

theorem paints_placement (p : Props) : ∀ op ∈ placement p, op.paints = false := by
  simp only [placement]
  split <;> simp [Op.paints]

theorem paintsLast_placement (p : Props) (ops : List Op) :
    Op.paintsLast (placement p ++ ops) = Op.paintsLast ops := by
  simp only [placement]
  split <;> rfl

theorem failsUnpainted_shape (palette : Palette) (p : Props) (kind : LayerKind) :
    (shape palette p kind).FailsUnpainted := by
  cases kind with
  | rect =>
    refine ⟨?_, fun h => by cases h⟩
    simp only [shape, rect, outline]
    split <;> rfl
  | circle =>
    simp only [shape, circle]
    split
    · exact ⟨rfl, fun _ => by simp⟩
    · refine ⟨?_, fun h => by cases h⟩
      simp only [outline]
      split <;> rfl
  | line | text | label | unknown => exact ⟨rfl, fun h => by cases h⟩

/-- Figures meet their faults before they paint. -/
theorem failsUnpainted_sketch (palette : Palette) (kind : LayerKind) (p : Props) :
    (sketch palette kind p).FailsUnpainted := by
  have hshape := failsUnpainted_shape palette p kind
  refine ⟨?_, fun hfault => ?_⟩
  · rw [sketch, paintsLast_placement]
    exact hshape.paintsLast
  · simp only [sketch, List.forall_mem_append]
    exact ⟨paints_placement p, hshape.unpainted hfault⟩

end Figure

namespace Canvas

/-! ### Operations that are refused -/

/-- A canvas that refuses an operation stays as it is. -/
theorem apply_of_refused {op : Op} {s : Canvas} (h : (s.apply op).2.isSome) :
    (s.apply op).1 = s := by
  cases op with
  | restore =>
    simp only [apply] at h
    split at h <;> cases h
  | fillText text x y =>
    simp only [apply, paintText] at h ⊢
    split at h
    · rfl
    all_goals cases h
  | arc cx cy radius start finish =>
    simp only [apply, traceArc] at h ⊢
    split
    · rfl
    split
    · simp_all
    · rfl
  | _ => cases h

theorem snd_apply_of_not_mayRefuse {op : Op} (h : mayRefuse op = false) (s : Canvas) :
    (s.apply op).2 = none := by
  cases op with
  | restore =>
    simp only [apply]
    split <;> rfl
  | fillText | arc => cases h
  | _ => rfl

theorem frame_traceArc (arc : Arc) (s : Canvas) : (s.traceArc arc).1.frame = s.frame := by
  rw [traceArc]
  split
  · rfl
  split <;> rfl

theorem frame_apply {op : Op} (h : op.paints = false) (s : Canvas) :
    (s.apply op).1.frame = s.frame := by
  cases op with
  | restore =>
    simp only [apply]
    split <;> rfl
  | arc cx cy radius start finish => exact s.frame_traceArc _
  | clear | fillRect | strokeRect | fill | stroke | fillText => cases h
  | _ => rfl

theorem snd_applyAll_of_not_mayRefuse {ops : List Op} (h : ∀ op ∈ ops, mayRefuse op = false)
    (s : Canvas) : (Sketch.applyAll ops s).2 = none := by
  induction ops generalizing s with
  | nil => rfl
  | cons op rest ih =>
    obtain ⟨hop, hrest⟩ := List.forall_mem_cons.1 h
    have hnone : (Surface.apply op s).2 = none := snd_apply_of_not_mayRefuse hop s
    rw [Sketch.applyAll_cons, hnone]
    exact ih hrest _

theorem frame_applyAll {ops : List Op} (h : ∀ op ∈ ops, op.paints = false) (s : Canvas) :
    (Sketch.applyAll ops s).1.frame = s.frame :=
  Sketch.applyAll_relates (R := fun t u : Canvas => t.frame = u.frame) (fun _ => rfl)
    (fun _ _ _ => Eq.trans) (fun op hop => frame_apply (h op hop)) s

/-- Operations of which one is refused leave no pixel behind. -/
theorem frame_applyAll_of_refused {ops : List Op} (h : Op.paintsLast ops) {s : Canvas}
    (hfault : (Sketch.applyAll ops s).2.isSome) : (Sketch.applyAll ops s).1.frame = s.frame := by
  induction ops generalizing s with
  | nil => rfl
  | cons op rest ih =>
    rw [Sketch.applyAll_cons] at hfault ⊢
    cases hop : (Surface.apply op s).2 with
    | some fault =>
      have hrefused : (s.apply op).2.isSome := Option.isSome_iff_exists.2 ⟨fault, hop⟩
      exact congrArg Canvas.frame (apply_of_refused hrefused)
    | none =>
      simp only [hop] at hfault ⊢
      rcases Op.paintsLast_cons h with hrest | ⟨hpaints, hrest⟩
      · -- Nothing that comes after the first painting can be refused.
        rw [snd_applyAll_of_not_mayRefuse hrest] at hfault
        cases hfault
      · exact (ih hrest hfault).trans (frame_apply hpaints s)

/-- A sketch that cannot be drawn leaves no pixel behind. -/
theorem frame_draw_of_fault {sketch : Sketch} (h : sketch.FailsUnpainted) {s : Canvas}
    (hfault : (sketch.draw s).2.isSome) : (sketch.draw s).1.frame = s.frame := by
  have hrestore (u : Canvas) : (Surface.apply .restore u).1.frame = u.frame := frame_apply rfl u
  have hsave : (Surface.apply .save s).1.frame = s.frame := rfl
  rw [Sketch.draw_snd, Option.isSome_or, Bool.or_eq_true] at hfault
  rw [Sketch.draw_fst, hrestore]
  rcases hfault with hrefused | hown
  · exact (frame_applyAll_of_refused h.paintsLast hrefused).trans hsave
  · exact (frame_applyAll (h.unpainted hown) _).trans hsave

theorem SameState.sameButPath {s t : Canvas} (h : s.SameState t) (hframe : s.frame = t.frame) :
    s.SameButPath t := by
  obtain ⟨viewport, background, fonts, frame, pen, saved, path⟩ := s
  obtain ⟨viewport', background', fonts', frame', pen', saved', path'⟩ := t
  obtain ⟨⟨rfl, rfl, rfl, -⟩, rfl, rfl⟩ := h
  cases hframe
  rfl

/-- A sketch that cannot be drawn changes the path only. -/
theorem sameButPath_draw_of_fault {sketch : Sketch} (h : sketch.FailsUnpainted)
    (hbracket : ∀ op ∈ sketch.ops, op.isBracket = false) {s : Canvas}
    (hfault : (sketch.draw s).2.isSome) : (sketch.draw s).1.SameButPath s :=
  (sameState_draw hbracket s).sameButPath (frame_draw_of_fault h hfault)

/-! ### What is refused -/

/-- The drawing state and the saved ones after an operation are given by those before. -/
theorem SameState.pen_apply {s t : Canvas} (h : s.SameState t) (op : Op) :
    (s.apply op).1.pen = (t.apply op).1.pen ∧ (s.apply op).1.saved = (t.apply op).1.saved := by
  cases hbracket : op.isBracket with
  | false =>
    rw [Canvas.pen_apply hbracket, Canvas.pen_apply hbracket, saved_apply hbracket,
      saved_apply hbracket, h.pen]
    exact ⟨rfl, h.saved⟩
  | true =>
    cases op with
    | save => simp only [apply, h.pen, h.saved, and_self]
    | restore =>
      simp only [apply, h.saved]
      split
      · exact ⟨h.pen, h.saved⟩
      · exact ⟨rfl, rfl⟩
    | _ => cases hbracket

/-- What is refused is given by the setting and the drawing state. -/
theorem SameState.snd_apply {s t : Canvas} (h : s.SameState t) (op : Op) :
    (s.apply op).2 = (t.apply op).2 := by
  cases op with
  | restore =>
    rw [snd_apply_of_not_mayRefuse rfl, snd_apply_of_not_mayRefuse rfl]
  | fillText text x y =>
    have hscale : s.scale = t.scale := congrArg Viewport.scale h.setting.viewport
    have hlimit : fontLimit s.frame = fontLimit t.frame := by
      rw [fontLimit, fontLimit, h.setting.extent.width, h.setting.extent.height]
    simp only [apply, paintText, placeText, h.pen, hscale, hlimit, h.setting.fonts]
    split <;> rfl
  | arc cx cy radius start finish =>
    simp only [apply, traceArc]
    split
    · rfl
    split <;> rfl
  | _ => rfl

/-- Pixels and paths have no part in what is refused, nor in the drawing state. -/
theorem isAgreement_sameState : Surface.IsAgreement SameState where
  size s t h := congrArg Viewport.size h.setting.viewport
  apply op s t h := by
    obtain ⟨hpen, hsaved⟩ := h.pen_apply op
    have hsetting := ((sameSetting_apply op s).trans h.setting).trans (sameSetting_apply op t).symm
    exact ⟨⟨hsetting, hpen, hsaved⟩, h.snd_apply op⟩

end Canvas

/-! ### Scenes -/

section Failing

variable {σ : Type} [Surface σ]

/-- Whether a layer cannot be drawn on a surface. -/
def Layer.fails (palette : Palette) (t : Float) (s : σ) (l : Layer) : Bool :=
  (l.draw palette t s).2.isSome

/-- The scene without the layers that cannot be drawn on a surface. -/
def Scene.withoutFailing (palette : Palette) (t : Duration) (s : σ) (scene : Scene) : Scene :=
  { scene with layers := scene.layers.filter fun l => !l.fails palette t.millis s }

end Failing

namespace Canvas

variable {s u : Canvas}

/-- A layer that cannot be drawn leaves no pixel behind. -/
theorem frame_draw_of_fails {palette : Palette} {time : Float} {l : Layer}
    (h : l.fails palette time s) : (l.draw palette time s).1.frame = s.frame :=
  frame_draw_of_fault (Figure.failsUnpainted_sketch palette l.kind (l.propsAt time)) h

theorem SameState.snd_draw (h : s.SameState u) (palette : Palette) (time : Float) (l : Layer) :
    (l.draw palette time s).2 = (l.draw palette time u).2 :=
  (isAgreement_sameState.draw h (Figure.sketch palette l.kind (l.propsAt time))).2

/-- Layers that cannot be drawn have no part in the pixels. -/
theorem SameState.drawAll_filter (h : u.SameState s) (palette : Palette) (time : Float)
    (layers : List Layer) :
    (Layer.drawAll palette time (layers.filter fun l => !l.fails palette time s) u).1.SameButPath
      (Layer.drawAll palette time layers u).1 := by
  induction layers generalizing u with
  | nil => rfl
  | cons l rest ih =>
    have hfails : l.fails palette time u = l.fails palette time s :=
      congrArg Option.isSome (h.snd_draw palette time l)
    rw [Layer.fst_drawAll_cons]
    cases hs : l.fails palette time s with
    | false =>
      rw [List.filter_cons_of_pos (by simpa using hs), Layer.fst_drawAll_cons]
      exact ih ((sameState_drawLayer palette time l u).trans h)
    | true =>
      have hkept : (l.draw palette time u).1.SameButPath u :=
        sameButPath_draw_of_fault (Figure.failsUnpainted_sketch palette l.kind (l.propsAt time))
          (Figure.isBracket_sketch palette l.kind (l.propsAt time)) (hfails.trans hs)
      rw [List.filter_cons_of_neg (by simpa using hs)]
      exact (ih h).trans (hkept.drawAll palette time rest).1.symm

/-- The report says how many layers can be drawn on the canvas as it is at the start. -/
theorem report_drawAll (palette : Palette) (time : Float) (layers : List Layer) (s : Canvas) :
    (Layer.drawAll palette time layers s).2 =
      ⟨layers.countP fun l => !l.fails palette time s,
        layers.countP fun l => l.fails palette time s⟩ := by
  rw [Layer.snd_drawAll (P := fun u : Canvas => u.SameState s)
    (fun l u h => (sameState_drawLayer palette time l u).trans h)
    (fun l u h => h.snd_draw palette time l) layers (.refl s), DrawReport.foldl_count]
  simp only [Nat.zero_add]
  rfl

/-- **A layer that cannot be drawn leaves no pixel behind and costs the others nothing.**  On any
canvas, a layer that cannot be drawn leaves the pixels as they were.  Whether it can be drawn does
not depend on the layers below.  Drawing a scene without the layers that cannot be drawn gives the
same pixels, with as many layers drawn and none that could not be; and all layers of a scene are
either drawn or not. -/
theorem draw_withoutFailing (palette : Palette) (t : Duration) (scene : Scene) (s : Canvas) :
    (∀ (l : Layer) (u : Canvas), l.fails palette t.millis u →
      (l.draw palette t.millis u).1.frame = u.frame) ∧
    (∀ (below : List Layer) (l : Layer),
      l.fails palette t.millis (Layer.drawAll palette t.millis below s).1 =
        l.fails palette t.millis s) ∧
    ((scene.withoutFailing palette t s).draw palette t s).1.frame =
      (scene.draw palette t s).1.frame ∧
    ((scene.withoutFailing palette t s).draw palette t s).2 =
      ⟨(scene.draw palette t s).2.drawn, 0⟩ ∧
    (scene.draw palette t s).2.drawn + (scene.draw palette t s).2.failed =
      scene.layers.length := by
  refine ⟨fun l u => frame_draw_of_fails, fun below l => ?_, ?_, ?_, ?_⟩
  · have hstate := sameState_drawAll palette t.millis below s
    exact congrArg Option.isSome (hstate.snd_draw palette t.millis l)
  · exact ((SameState.refl s).drawAll_filter palette t.millis scene.layers).frame
  · rw [Scene.draw, Scene.draw, report_drawAll, report_drawAll]
    simp [Scene.withoutFailing, List.countP_filter]
  · rw [Scene.draw, report_drawAll, List.length_eq_countP_add_countP
      fun l : Layer => l.fails palette t.millis s]
    simp [Nat.add_comm]

/-- A square between a disc of negative radius and a text that is too large for four by four
pixels. -/
theorem draw_withoutFailing_square :
    let disc := (Layer.ofKind .circle).withNumber .radius (-5)
    let text := (Layer.ofKind .text).withNumber .fontSize 1000
    let scene := Scene.ofLayers 4000 [disc, Layer.ofKind .rect, text]
    let palette := Theme.light.palette
    let t := Duration.ofMillis 0
    let s := Canvas.blank (.fit ⟨4, 4⟩ 1 ⟨1, 1⟩) .white .empty
    disc.fails palette t.millis s ∧ (disc.draw palette t.millis s).1.frame = s.frame ∧
      text.fails palette t.millis s ∧ (text.draw palette t.millis s).1.frame = s.frame ∧
      (scene.draw palette t s).2 = ⟨1, 2⟩ ∧
      ((scene.withoutFailing palette t s).draw palette t s).2 = ⟨1, 0⟩ := by
  intro disc text scene palette t s
  have hdisc : disc.fails palette t.millis s := by decide +kernel
  have htext : text.fails palette t.millis s := by decide +kernel
  have hreport : (scene.draw palette t s).2 = ⟨1, 2⟩ := by decide +kernel
  obtain ⟨hframe, -, -, hkept, -⟩ := draw_withoutFailing palette t scene s
  rw [hreport] at hkept
  exact ⟨hdisc, hframe disc s hdisc, htext, hframe text s htext, hreport, hkept⟩

end Canvas

end SceneLoop
