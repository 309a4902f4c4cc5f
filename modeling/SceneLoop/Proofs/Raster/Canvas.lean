import SceneLoop.Proofs.Drawing.Sketch
import SceneLoop.Proofs.Raster.Extent
import SceneLoop.Raster.Canvas

/-!
# What operations leave behind on a canvas

No operation changes the drawing area, the background, the faces or the extent of the frame.  Only
saving and restoring touch the saved drawing states, so a sketch without them, drawn between a save
and a restore, leaves the drawing state as it was.  Only painting the path looks at it, so a sketch
that begins its path before it paints one does not depend on the path that is left over.

## Main definitions

* `Canvas.SameSetting` : canvases with the same drawing area, background, faces and extent.
* `Canvas.SameButPath` : canvases that differ in their paths only.

## Main results

* `Canvas.sameSetting_apply` : an operation keeps the setting.
* `Canvas.pen_draw`, `Canvas.saved_draw` : a sketch leaves the drawing state as it was.
* `Canvas.SameButPath.draw` : a sketch that begins its path does not depend on the path before.
-/

namespace SceneLoop

namespace Canvas

/-- Canvases with the same drawing area, background, faces and extent. -/
structure SameSetting (s t : Canvas) : Prop where
  viewport : s.viewport = t.viewport
  background : s.background = t.background
  fonts : s.fonts = t.fonts
  extent : s.frame.SameExtent t.frame

namespace SameSetting

theorem refl (s : Canvas) : s.SameSetting s :=
  ⟨rfl, rfl, rfl, .refl s.frame⟩

theorem symm {s t : Canvas} (h : s.SameSetting t) : t.SameSetting s :=
  ⟨h.viewport.symm, h.background.symm, h.fonts.symm, h.extent.symm⟩

theorem trans {s t u : Canvas} (hst : s.SameSetting t) (htu : t.SameSetting u) :
    s.SameSetting u :=
  ⟨hst.viewport.trans htu.viewport, hst.background.trans htu.background,
    hst.fonts.trans htu.fonts, hst.extent.trans htu.extent⟩

end SameSetting

/-! ### One operation -/

theorem sameSetting_paintInside (path : Path) (s : Canvas) :
    (s.paintInside path).SameSetting s :=
  ⟨rfl, rfl, rfl, path.sameExtent_fillOn _ s.frame⟩

theorem sameSetting_paintOutline (corners : List Point) (edges : List Edge) (s : Canvas) :
    (s.paintOutline corners edges).SameSetting s :=
  ⟨rfl, rfl, rfl, Path.sameExtent_strokeOn corners edges _ _ s.frame⟩

theorem sameSetting_paintText (text : String) (x y : Float) (s : Canvas) :
    (s.paintText text x y).1.SameSetting s := by
  rw [paintText]
  split
  · exact .refl s
  · exact .refl s
  · exact ⟨rfl, rfl, rfl, FontBook.sameExtent_drawLine _ _ _ _ _ _ _ _⟩

theorem sameSetting_traceArc (arc : Arc) (s : Canvas) : (s.traceArc arc).1.SameSetting s := by
  rw [traceArc]
  split
  · exact .refl s
  split
  · exact ⟨rfl, rfl, rfl, .refl _⟩
  · exact .refl s

/-- An operation keeps the drawing area, the background, the faces and the extent. -/
theorem sameSetting_apply (op : Op) (s : Canvas) : (s.apply op).1.SameSetting s := by
  cases op with
  | clear => exact ⟨rfl, rfl, rfl, s.frame.sameExtent_fill s.background⟩
  | restore =>
    simp only [apply]
    split <;> exact ⟨rfl, rfl, rfl, .refl _⟩
  | fillRect | fill => exact s.sameSetting_paintInside _
  | strokeRect | stroke => exact s.sameSetting_paintOutline _ _
  | fillText text x y => exact s.sameSetting_paintText text x y
  | arc cx cy radius start finish => exact s.sameSetting_traceArc _
  | _ => exact ⟨rfl, rfl, rfl, .refl _⟩

theorem pen_paintText (text : String) (x y : Float) (s : Canvas) :
    (s.paintText text x y).1.pen = s.pen ∧ (s.paintText text x y).1.saved = s.saved := by
  rw [paintText]
  split <;> exact ⟨rfl, rfl⟩

theorem pen_traceArc (arc : Arc) (s : Canvas) :
    (s.traceArc arc).1.pen = s.pen ∧ (s.traceArc arc).1.saved = s.saved := by
  rw [traceArc]
  split
  · exact ⟨rfl, rfl⟩
  split <;> exact ⟨rfl, rfl⟩

/-- The drawing state after an operation that does not restore one, whether it is refused or not. -/
theorem pen_apply {op : Op} (h : op.isBracket = false) (s : Canvas) :
    (s.apply op).1.pen = s.pen.after op := by
  cases op with
  | save | restore => cases h
  | fillText text x y => exact (s.pen_paintText text x y).1
  | arc cx cy radius start finish => exact (s.pen_traceArc _).1
  | _ => rfl

theorem saved_apply {op : Op} (h : op.isBracket = false) (s : Canvas) :
    (s.apply op).1.saved = s.saved := by
  cases op with
  | save | restore => cases h
  | fillText text x y => exact (s.pen_paintText text x y).2
  | arc cx cy radius start finish => exact (s.pen_traceArc _).2
  | _ => rfl

/-! ### Paths that are left over -/

/-- The canvas without its path. -/
def withoutPath (s : Canvas) : Canvas :=
  s.trace fun _ => #[]

/-- Canvases that differ in their paths only. -/
def SameButPath (s t : Canvas) : Prop :=
  s.withoutPath = t.withoutPath

/-- A change to what a text does not look at may be made before or after the text is painted. -/
theorem paintText_comm {g : Canvas → Canvas}
    (hlook : ∀ s : Canvas, (g s).pen = s.pen ∧ (g s).scale = s.scale ∧ (g s).frame = s.frame ∧
      (g s).fonts = s.fonts)
    (hpaint : ∀ (change : Frame → Frame) (s : Canvas), (g s).paint change = g (s.paint change))
    (text : String) (x y : Float) (s : Canvas) :
    (g s).paintText text x y = (g (s.paintText text x y).1, (s.paintText text x y).2) := by
  obtain ⟨hpen, hscale, hframe, hfonts⟩ := hlook s
  simp only [paintText, placeText, hpen, hscale, hframe, hfonts, hpaint]
  split <;> rfl

theorem paintText_withoutPath (text : String) (x y : Float) (s : Canvas) :
    s.withoutPath.paintText text x y =
      ((s.paintText text x y).1.withoutPath, (s.paintText text x y).2) :=
  paintText_comm (g := withoutPath) (fun _ => ⟨rfl, rfl, rfl, rfl⟩) (fun _ _ => rfl) text x y s

theorem traceArc_withoutPath (arc : Arc) (s : Canvas) :
    (s.withoutPath.traceArc arc).1.withoutPath = (s.traceArc arc).1.withoutPath ∧
      (s.withoutPath.traceArc arc).2 = (s.traceArc arc).2 := by
  simp only [traceArc]
  split
  · exact ⟨rfl, rfl⟩
  split <;> exact ⟨rfl, rfl⟩

/-- An operation other than painting the path looks at everything but the path. -/
theorem apply_withoutPath {op : Op} (hfill : op ≠ .fill) (hstroke : op ≠ .stroke) (s : Canvas) :
    (s.withoutPath.apply op).1.withoutPath = (s.apply op).1.withoutPath ∧
      (s.withoutPath.apply op).2 = (s.apply op).2 := by
  cases op with
  | fill => exact absurd rfl hfill
  | stroke => exact absurd rfl hstroke
  | restore =>
    obtain ⟨viewport, background, fonts, frame, pen, saved, path⟩ := s
    cases saved <;> exact ⟨rfl, rfl⟩
  | fillText text x y =>
    have htext := s.paintText_withoutPath text x y
    exact ⟨congrArg (fun r => r.1.withoutPath) htext, congrArg (fun r => r.2) htext⟩
  | arc cx cy radius start finish => exact s.traceArc_withoutPath _
  | _ => exact ⟨rfl, rfl⟩

namespace SameButPath

theorem frame {s t : Canvas} (h : s.SameButPath t) : s.frame = t.frame := by
  have hframe : s.withoutPath.frame = t.withoutPath.frame := congrArg Canvas.frame h
  exact hframe

theorem size {s t : Canvas} (h : s.SameButPath t) : s.viewport.size = t.viewport.size := by
  have hviewport : s.withoutPath.viewport = t.withoutPath.viewport := congrArg Canvas.viewport h
  exact congrArg Viewport.size hviewport

theorem apply {s t : Canvas} (h : s.SameButPath t) {op : Op} (hfill : op ≠ .fill)
    (hstroke : op ≠ .stroke) :
    (s.apply op).1.SameButPath (t.apply op).1 ∧ (s.apply op).2 = (t.apply op).2 := by
  obtain ⟨hs, hsfault⟩ := apply_withoutPath hfill hstroke s
  obtain ⟨ht, htfault⟩ := apply_withoutPath hfill hstroke t
  rw [h] at hs hsfault
  exact ⟨hs.symm.trans ht, hsfault.symm.trans htfault⟩

/-- Operations that begin a path before they paint one do not depend on the path before. -/
theorem applyAll {ops : List Op} (hops : Op.beginsPath ops) {s t : Canvas}
    (h : s.SameButPath t) :
    (Sketch.applyAll ops s).1.SameButPath (Sketch.applyAll ops t).1 ∧
      (Sketch.applyAll ops s).2 = (Sketch.applyAll ops t).2 := by
  induction ops generalizing s t with
  | nil => exact ⟨h, rfl⟩
  | cons op rest ih =>
    rcases Op.beginsPath_cons hops with rfl | ⟨hfill, hstroke, hrest⟩
    · -- What is left over is forgotten, and from here on the canvases are equal.
      have hfirst : ∀ u : Canvas, Sketch.applyAll (.beginPath :: rest) u =
          Sketch.applyAll rest u.withoutPath := fun _ => rfl
      rw [hfirst, hfirst, h]
      exact ⟨rfl, rfl⟩
    · obtain ⟨hagree, hfault⟩ := h.apply hfill hstroke
      have happly : ∀ u : Canvas, Surface.apply op u = u.apply op := fun _ => rfl
      rw [Sketch.applyAll_cons, Sketch.applyAll_cons, happly, happly, hfault]
      cases (t.apply op).2 with
      | none => exact ih hrest hagree
      | some fault => exact ⟨hagree, rfl⟩

/-- A sketch that begins its path does not depend on the path before. -/
theorem draw {sketch : Sketch} (hops : Op.beginsPath sketch.ops) {s t : Canvas}
    (h : s.SameButPath t) :
    (sketch.draw s).1.SameButPath (sketch.draw t).1 ∧ (sketch.draw s).2 = (sketch.draw t).2 := by
  have hsave : (s.apply .save).1.SameButPath (t.apply .save).1 :=
    (h.apply (by simp) (by simp)).1
  obtain ⟨hagree, hfault⟩ := applyAll hops hsave
  rw [Sketch.draw_fst, Sketch.draw_fst, Sketch.draw_snd, Sketch.draw_snd]
  refine ⟨?_, congrArg (·.or sketch.fault) hfault⟩
  exact (hagree.apply (by simp) (by simp)).1

end SameButPath

/-! ### Sketches -/

/-- A sketch keeps the drawing area, the background, the faces and the extent. -/
theorem sameSetting_draw (sketch : Sketch) (s : Canvas) : (sketch.draw s).1.SameSetting s := by
  rw [Sketch.draw_fst]
  refine (sameSetting_apply .restore _).trans (SameSetting.trans ?_ (sameSetting_apply .save s))
  exact Sketch.applyAll_relates SameSetting.refl (fun _ _ _ => SameSetting.trans)
    (fun op _ => sameSetting_apply op) _

theorem restore_of_saved {s : Canvas} {pen : Pen} {saved : List Pen} (h : s.saved = pen :: saved) :
    (s.apply .restore).1.pen = pen ∧ (s.apply .restore).1.saved = saved := by
  simp only [apply, h, and_self]

theorem saved_applyAll {ops : List Op} (h : ∀ op ∈ ops, op.isBracket = false) (s : Canvas) :
    (Sketch.applyAll ops s).1.saved = s.saved :=
  Sketch.applyAll_relates (R := fun t u : Canvas => t.saved = u.saved) (fun _ => rfl)
    (fun _ _ _ => Eq.trans) (fun op hop => saved_apply (h op hop)) s

/-- A sketch without a save or restore of its own leaves the drawing state as it was, and the saved
ones too, even if it is cut short. -/
theorem pen_draw {sketch : Sketch} (h : ∀ op ∈ sketch.ops, op.isBracket = false) (s : Canvas) :
    (sketch.draw s).1.pen = s.pen ∧ (sketch.draw s).1.saved = s.saved := by
  have hsaved : (Sketch.applyAll sketch.ops (s.apply .save).1).1.saved = s.pen :: s.saved :=
    saved_applyAll h (s.apply .save).1
  rw [Sketch.draw_fst]
  exact restore_of_saved hsaved

end Canvas

end SceneLoop
