import SceneLoop.Proofs.Drawing.Sketch

/-!
# Surfaces that take drawings alike

Two surfaces agree if they have the same size, refuse the same operations, and agree again after
each operation.  Then they agree after any frame, and the frames are reported alike.  So watching a
surface does not change what is drawn on it.

## Main definitions

* `Surface.IsAgreement` : a relation between surfaces that every operation keeps.
* `Watched` : a surface together with the operations that it was asked for.
* `Painter.asks` : the operations that painting a frame asks for.

## Main results

* `Surface.IsAgreement.draw`, `Surface.IsAgreement.drawAll`, `Surface.IsAgreement.paint` : surfaces
  that agree before a drawing agree after it.
* `Watched.paint_of` : watching a surface changes nothing.
-/

namespace SceneLoop

variable {σ τ : Type} [Surface σ] [Surface τ]

namespace Surface

/-- A relation between surfaces of the same size that every operation keeps, and for which both
surfaces refuse the same operations. -/
structure IsAgreement (R : σ → τ → Prop) : Prop where
  size : ∀ s t, R s t → size s = size t
  apply : ∀ op s t, R s t → R (apply op s).1 (apply op t).1 ∧ (apply op s).2 = (apply op t).2

namespace IsAgreement

variable {R : σ → τ → Prop} {s : σ} {t : τ}

theorem draw (h : IsAgreement R) (hst : R s t) (sketch : Sketch) :
    R (sketch.draw s).1 (sketch.draw t).1 ∧ (sketch.draw s).2 = (sketch.draw t).2 := by
  have hsave := (h.apply .save s t hst).1
  have hkeep : ∀ op ∈ sketch.ops, ∀ s t, R s t → R (Surface.apply op s).1 (Surface.apply op t).1 ∧
      (Surface.apply op s).2 = (Surface.apply op t).2 := fun op _ => h.apply op
  obtain ⟨hagree, hfault⟩ := Sketch.applyAll_agree hkeep hsave
  rw [Sketch.draw_fst, Sketch.draw_fst, Sketch.draw_snd, Sketch.draw_snd]
  exact ⟨(h.apply .restore _ _ hagree).1, congrArg (·.or sketch.fault) hfault⟩

theorem drawAll (h : IsAgreement R) (hst : R s t) (palette : Palette) (time : Float)
    (layers : List Layer) :
    R (Layer.drawAll palette time layers s).1 (Layer.drawAll palette time layers t).1 ∧
      (Layer.drawAll palette time layers s).2 = (Layer.drawAll palette time layers t).2 :=
  Layer.drawAll_agree (R := R) (fun _ _ _ _ hst => h.draw hst _) hst

/-- Surfaces that agree before a frame agree after it, and the frame is reported alike. -/
theorem paint (h : IsAgreement R) (hst : R s t) (p : Painter) (scene : Option Scene)
    (elapsed : Duration) (trace : Option String) :
    R (p.paint scene elapsed trace s).1 (p.paint scene elapsed trace t).1 ∧
      (p.paint scene elapsed trace s).2 = (p.paint scene elapsed trace t).2 := by
  have hclear := (h.apply .clear s t hst).1
  simp only [Painter.paint]
  cases p.shown? scene with
  | some scene =>
    obtain ⟨hagree, hreport⟩ := h.drawAll hclear p.theme.palette
      (scene.effectiveTime elapsed).millis scene.layers
    exact ⟨hagree, congrArg Painted.scene hreport⟩
  | none =>
    simp only [Painter.paintDemo, h.size _ _ hclear, and_true]
    exact (h.draw hclear _).1

end IsAgreement

end Surface

/-! ### Watching a surface -/

/-- A surface together with the operations that it was asked for, those it refused included. -/
structure Watched (σ : Type) where
  /-- The surface. -/
  inner : σ
  /-- The operations in order. -/
  asked : List Op

namespace Watched

/-- A surface that was asked for nothing yet. -/
def of (s : σ) : Watched σ :=
  ⟨s, []⟩

instance : Surface (Watched σ) where
  size w := Surface.size w.inner
  apply op w := (⟨(Surface.apply op w.inner).1, w.asked ++ [op]⟩, (Surface.apply op w.inner).2)

theorem isAgreement_inner : Surface.IsAgreement fun (w : Watched σ) (s : σ) => w.inner = s where
  size := by
    rintro w _ rfl
    rfl
  apply := by
    rintro op w _ rfl
    exact ⟨rfl, rfl⟩

/-- Watching a surface changes nothing. -/
theorem paint_of (p : Painter) (scene : Option Scene) (elapsed : Duration)
    (trace : Option String) (s : σ) :
    (p.paint scene elapsed trace (of s)).1.inner = (p.paint scene elapsed trace s).1 ∧
      (p.paint scene elapsed trace (of s)).2 = (p.paint scene elapsed trace s).2 :=
  isAgreement_inner.paint rfl p scene elapsed trace

end Watched

/-- The operations that painting a frame asks a surface for, in order. -/
def Painter.asks (p : Painter) (scene : Option Scene) (elapsed : Duration)
    (trace : Option String) (s : σ) : List Op :=
  (p.paint scene elapsed trace (Watched.of s)).1.asked

end SceneLoop
