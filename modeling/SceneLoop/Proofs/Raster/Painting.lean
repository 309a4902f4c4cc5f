import SceneLoop.Proofs.Raster.Canvas

/-!
# Painting on a canvas that was painted before

A painted frame leaves the drawing state, the saved ones and the extent as they were on a blank
canvas; only the pixels and the path differ.  Clearing takes the pixels back, and no sketch looks at
the path before it begins its own.  So a frame does not depend on what was painted before.

## Main definitions

* `Canvas.SameState` : canvases that differ in their pixels and their paths only.

## Main results

* `Canvas.sameState_paint` : painting a frame changes the pixels and the path only.
* `Canvas.SameState.paint` : the frame that is painted does not depend on these.
-/

namespace SceneLoop

namespace Canvas

theorem SameButPath.drawAll (palette : Palette) (time : Float) (layers : List Layer)
    {s t : Canvas} (h : s.SameButPath t) :
    (Layer.drawAll palette time layers s).1.SameButPath (Layer.drawAll palette time layers t).1 ∧
      (Layer.drawAll palette time layers s).2 = (Layer.drawAll palette time layers t).2 :=
  Layer.drawAll_agree (R := SameButPath)
    (fun _ _ _ _ h => h.draw (Figure.beginsPath_sketch _ _ _)) h

/-- Canvases that differ in their pixels and their paths only. -/
structure SameState (s t : Canvas) : Prop where
  setting : s.SameSetting t
  pen : s.pen = t.pen
  saved : s.saved = t.saved

theorem SameState.refl (s : Canvas) : s.SameState s :=
  ⟨.refl s, rfl, rfl⟩

theorem SameState.trans {s t u : Canvas} (hst : s.SameState t) (htu : t.SameState u) :
    s.SameState u :=
  ⟨hst.setting.trans htu.setting, hst.pen.trans htu.pen, hst.saved.trans htu.saved⟩

/-! ### Painting keeps the state -/

theorem sameState_clear (s : Canvas) : (s.apply .clear).1.SameState s :=
  ⟨sameSetting_apply .clear s, rfl, rfl⟩

theorem sameState_draw {sketch : Sketch} (h : ∀ op ∈ sketch.ops, op.isBracket = false)
    (s : Canvas) : (sketch.draw s).1.SameState s :=
  ⟨sameSetting_draw sketch s, (pen_draw h s).1, (pen_draw h s).2⟩

theorem sameState_drawLayer (palette : Palette) (time : Float) (l : Layer) (s : Canvas) :
    (l.draw palette time s).1.SameState s :=
  sameState_draw (Figure.isBracket_sketch palette l.kind (l.propsAt time)) s

theorem sameState_drawAll (palette : Palette) (time : Float) (layers : List Layer) (s : Canvas) :
    (Layer.drawAll palette time layers s).1.SameState s := by
  induction layers generalizing s with
  | nil => exact .refl s
  | cons l rest ih =>
    rw [Layer.fst_drawAll_cons]
    exact (ih _).trans (sameState_drawLayer palette time l s)

/-- Painting a frame changes the pixels and the path only. -/
theorem sameState_paint (p : Painter) (scene : Option Scene) (elapsed : Duration)
    (trace : Option String) (s : Canvas) : (p.paint scene elapsed trace s).1.SameState s := by
  have hclear : (Surface.apply .clear s).1.SameState s := sameState_clear s
  simp only [Painter.paint]
  split
  · exact (sameState_drawAll _ _ _ _).trans hclear
  · exact (sameState_draw (DemoSettings.isBracket_sketch _ _ _ _ _) _).trans hclear

/-! ### What is painted does not depend on what was painted -/

/-- Clearing whole frames of the same extent leaves the same pixels. -/
theorem SameState.clear {s t : Canvas} (h : s.SameState t) (hwhole : t.frame.IsWhole) :
    (s.apply .clear).1.SameButPath (t.apply .clear).1 := by
  have hfill : s.frame.fill s.background = t.frame.fill t.background := by
    rw [Frame.fill_eq_solid (h.setting.extent.isWhole hwhole), Frame.fill_eq_solid hwhole,
      h.setting.extent.width, h.setting.extent.height, h.setting.background]
  obtain ⟨viewport, background, fonts, frame, pen, saved, path⟩ := s
  obtain ⟨viewport', background', fonts', frame', pen', saved', path'⟩ := t
  obtain ⟨⟨rfl, rfl, rfl, -⟩, rfl, rfl⟩ := h
  exact congrArg (fun f => Canvas.mk viewport background fonts f pen saved #[]) hfill

/-- The frame that is painted does not depend on the pixels and the path before. -/
theorem SameState.paint {s t : Canvas} (h : s.SameState t) (hwhole : t.frame.IsWhole)
    (p : Painter) (scene : Option Scene) (elapsed : Duration) (trace : Option String) :
    (p.paint scene elapsed trace s).1.SameButPath (p.paint scene elapsed trace t).1 ∧
      (p.paint scene elapsed trace s).2 = (p.paint scene elapsed trace t).2 := by
  have hclear : (Surface.apply .clear s).1.SameButPath (Surface.apply .clear t).1 :=
    h.clear hwhole
  have hsize : Surface.size (Surface.apply .clear s).1 = Surface.size (Surface.apply .clear t).1 :=
    hclear.size
  simp only [Painter.paint]
  split
  · obtain ⟨hagree, hreport⟩ := hclear.drawAll p.theme.palette _ _
    exact ⟨hagree, congrArg Painted.scene hreport⟩
  · have hbegins := DemoSettings.beginsPath_sketch p.demo p.theme.palette
      (Surface.size (Surface.apply .clear t).1) elapsed trace
    simp only [Painter.paintDemo, hsize, and_true]
    exact (hclear.draw hbegins).1

theorem SameState.frame_paint {s t : Canvas} (h : s.SameState t) (hwhole : t.frame.IsWhole)
    (p : Painter) (scene : Option Scene) (elapsed : Duration) (trace : Option String) :
    (p.paint scene elapsed trace s).1.frame = (p.paint scene elapsed trace t).1.frame :=
  (h.paint hwhole p scene elapsed trace).1.frame

end Canvas

end SceneLoop
