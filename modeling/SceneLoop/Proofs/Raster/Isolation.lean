import SceneLoop.Proofs.Raster.Painting

/-!
# Layers that are drawn alone

Drawing a layer on a canvas looks at its setting and its drawing state, and at its pixels where it
paints.  It looks neither at the drawing states that were saved before, which lie below its own save
and are left there, nor at the path that the layer before has left over.  So drawing a scene is
drawing each of its layers alone, one over the pixels of the other.

## Main definitions

* `Canvas.stackedOn` : a canvas with more saved drawing states below its own.
* `Canvas.alone` : a canvas with other pixels, no saved drawing states and no path.

## Main results

* `Canvas.draw_stackedOn` : a sketch leaves alone what was saved before.
* `Canvas.frame_draw_alone` : a figure looks at neither the saved drawing states nor the path.
* `Canvas.draw_eq_foldl_alone` : drawing a scene is drawing each of its layers alone.
-/

namespace SceneLoop

namespace Canvas

/-- The canvas with more saved drawing states below its own. -/
def stackedOn (below : List Pen) (s : Canvas) : Canvas :=
  { s with saved := s.saved ++ below }

/-- The canvas with other pixels, no saved drawing states and no path. -/
def alone (f : Frame) (s : Canvas) : Canvas :=
  { s with frame := f, saved := [], path := #[] }

theorem stackedOn_alone (s : Canvas) : (s.alone s.frame).stackedOn s.saved = s.withoutPath :=
  rfl

theorem sameButPath_withoutPath (s : Canvas) : s.withoutPath.SameButPath s :=
  rfl

/-- Canvases that differ in their pixels and their paths only are the same for a layer alone. -/
theorem SameState.alone {s t : Canvas} (h : s.SameState t) (f : Frame) : s.alone f = t.alone f := by
  obtain ⟨viewport, background, fonts, frame, pen, saved, path⟩ := s
  obtain ⟨viewport', background', fonts', frame', pen', saved', path'⟩ := t
  obtain ⟨⟨rfl, rfl, rfl, -⟩, rfl, -⟩ := h
  rfl

/-! ### Saved drawing states below -/

theorem paintText_stackedOn (text : String) (x y : Float) (below : List Pen) (s : Canvas) :
    (s.stackedOn below).paintText text x y =
      ((s.paintText text x y).1.stackedOn below, (s.paintText text x y).2) :=
  paintText_comm (g := stackedOn below) (fun _ => ⟨rfl, rfl, rfl, rfl⟩) (fun _ _ => rfl) text x y s

theorem traceArc_stackedOn (arc : Arc) (below : List Pen) (s : Canvas) :
    (s.stackedOn below).traceArc arc =
      ((s.traceArc arc).1.stackedOn below, (s.traceArc arc).2) := by
  simp only [traceArc]
  split
  · rfl
  split <;> rfl

/-- An operation that neither saves nor restores does not look at what was saved. -/
theorem apply_stackedOn {op : Op} (h : op.isBracket = false) (below : List Pen) (s : Canvas) :
    (s.stackedOn below).apply op = ((s.apply op).1.stackedOn below, (s.apply op).2) := by
  cases op with
  | save | restore => cases h
  | fillText text x y => exact s.paintText_stackedOn text x y below
  | arc cx cy radius start finish => exact s.traceArc_stackedOn _ below
  | _ => rfl

/-- A restore that has a save of its own leaves alone what was saved before. -/
theorem restore_stackedOn {s : Canvas} {pen : Pen} {saved : List Pen} (h : s.saved = pen :: saved)
    (below : List Pen) :
    ((s.stackedOn below).apply .restore).1 = (s.apply .restore).1.stackedOn below := by
  have hstack : (s.stackedOn below).saved = pen :: (saved ++ below) := by
    rw [stackedOn, h, List.cons_append]
  simp only [apply, h, hstack]
  rfl

/-- A sketch without a save or restore of its own leaves alone what was saved before. -/
theorem draw_stackedOn {sketch : Sketch} (h : ∀ op ∈ sketch.ops, op.isBracket = false)
    (below : List Pen) (s : Canvas) :
    (sketch.draw (s.stackedOn below)).1 = (sketch.draw s).1.stackedOn below ∧
      (sketch.draw (s.stackedOn below)).2 = (sketch.draw s).2 := by
  have hsave : (Surface.apply .save (s.stackedOn below)).1 =
      (Surface.apply .save s).1.stackedOn below := rfl
  have hkeep : ∀ op ∈ sketch.ops, ∀ t u : Canvas, t = u.stackedOn below →
      (Surface.apply op t).1 = (Surface.apply op u).1.stackedOn below ∧
        (Surface.apply op t).2 = (Surface.apply op u).2 := by
    rintro op hop _ u rfl
    have happly : Surface.apply op (u.stackedOn below) =
        ((Surface.apply op u).1.stackedOn below, (Surface.apply op u).2) :=
      apply_stackedOn (h op hop) below u
    rw [happly]
    exact ⟨rfl, rfl⟩
  obtain ⟨hagree, hfault⟩ := Sketch.applyAll_agree hkeep hsave
  have hsaved := saved_applyAll h (s.apply .save).1
  rw [Sketch.draw_fst, Sketch.draw_fst, Sketch.draw_snd, Sketch.draw_snd, hagree, hfault]
  exact ⟨restore_stackedOn hsaved below, rfl⟩

/-! ### Layers -/

/-- A sketch that begins its path, without a save or restore of its own, paints the same pixels
without the path and the saved drawing states before it, and has the same fault. -/
theorem frame_draw_alone {sketch : Sketch} (h : ∀ op ∈ sketch.ops, op.isBracket = false)
    (hbegins : Op.beginsPath sketch.ops) (s : Canvas) :
    (sketch.draw (s.alone s.frame)).1.frame = (sketch.draw s).1.frame ∧
      (sketch.draw (s.alone s.frame)).2 = (sketch.draw s).2 := by
  obtain ⟨hstack, hstackFault⟩ := draw_stackedOn h s.saved (s.alone s.frame)
  obtain ⟨hpath, hpathFault⟩ := (sameButPath_withoutPath s).draw hbegins
  rw [stackedOn_alone] at hstack hstackFault
  refine ⟨?_, hstackFault.symm.trans hpathFault⟩
  calc
    (sketch.draw (s.alone s.frame)).1.frame
    _ = ((sketch.draw (s.alone s.frame)).1.stackedOn s.saved).frame := rfl
    _ = (sketch.draw s.withoutPath).1.frame := by rw [hstack]
    _ = (sketch.draw s).1.frame := hpath.frame

theorem frame_drawAll (palette : Palette) (time : Float) (layers : List Layer) (s : Canvas) :
    (Layer.drawAll palette time layers s).1.frame =
      layers.foldl (fun f l => (l.draw palette time (s.alone f)).1.frame) s.frame := by
  induction layers generalizing s with
  | nil => rfl
  | cons l rest ih =>
    have hbracket := Figure.isBracket_sketch palette l.kind (l.propsAt time)
    have hbegins := Figure.beginsPath_sketch palette l.kind (l.propsAt time)
    have hstate := sameState_drawLayer palette time l s
    have hframe : (l.draw palette time (s.alone s.frame)).1.frame =
        (l.draw palette time s).1.frame := (frame_draw_alone hbracket hbegins s).1
    rw [Layer.fst_drawAll_cons, ih, List.foldl_cons, hframe]
    simp only [hstate.alone]

/-- **Drawing a scene is drawing each of its layers alone.**  On any canvas, with any pixels,
drawing state, saved drawing states and path, the pixels after a scene are those of its layers,
drawn in order, each over the pixels before it and each alone: with the drawing state at the start,
no saved ones and no path.  The drawing state and the saved ones are then as they were at the start,
whether the layers could be drawn or not. -/
theorem draw_eq_foldl_alone (palette : Palette) (t : Duration) (scene : Scene) (s : Canvas) :
    (scene.draw palette t s).1.frame =
        scene.layers.foldl (fun f l => (l.draw palette t.millis (s.alone f)).1.frame) s.frame ∧
      (scene.draw palette t s).1.pen = s.pen ∧ (scene.draw palette t s).1.saved = s.saved := by
  have hstate := sameState_drawAll palette t.millis scene.layers s
  exact ⟨frame_drawAll palette t.millis scene.layers s, hstate.pen, hstate.saved⟩

end Canvas

end SceneLoop
