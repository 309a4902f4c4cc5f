import SceneLoop.Proofs.Raster.Canvas

/-!
# Saving and restoring

A save puts the drawing state on a stack and a restore takes it back.  So whatever comes between a
save and its restore, the drawing state is then as it was, if all that is saved in between is
restored in between.  A recording keeps no drawing states, but counts how many a canvas would have
saved.

## Main definitions

* `Surface.applyEach` : operations one after the other, whether they are refused or not.
* `Op.isBalanced` : whether saves and restores match.

## Main results

* `Canvas.saved_applyEach` : balanced operations leave alone what was saved before.
* `Recording.depth_applyEach` : a recording counts the drawing states that a canvas saves.
* `Canvas.save_restore_brackets` : a save and a restore bracket any drawing.
-/

namespace SceneLoop

/-- The surface after operations that are applied one after the other, whether they are refused or
not. -/
def Surface.applyEach {σ : Type} [Surface σ] (ops : List Op) (s : σ) : σ :=
  ops.foldl (fun s op => (Surface.apply op s).1) s

namespace Op

/-- Whether every restore has a save of its own before it and every save a restore after it, where
some saves came before. -/
def isBalanced (opened : Nat) : List Op → Bool
  | [] => opened = 0
  | .save :: rest => isBalanced (opened + 1) rest
  | .restore :: rest =>
    match opened with
    | 0 => false
    | opened + 1 => isBalanced opened rest
  | _ :: rest => isBalanced opened rest

theorem isBalanced_cons {op : Op} (h : op.isBracket = false) (opened : Nat) (rest : List Op) :
    isBalanced opened (op :: rest) = isBalanced opened rest := by
  cases op <;> first | rfl | cases h

theorem eq_of_isBracket {op : Op} (h : op.isBracket) : op = .save ∨ op = .restore := by
  cases op <;> first | exact .inl rfl | exact .inr rfl | cases h

end Op

namespace Canvas

/-- Balanced operations leave alone what was saved before them, and take back the rest. -/
theorem saved_applyEach {ops : List Op} (own : List Pen) {below : List Pen}
    (h : Op.isBalanced own.length ops) {s : Canvas} (hs : s.saved = own ++ below) :
    (Surface.applyEach ops s).saved = below := by
  induction ops generalizing own s with
  | nil =>
    obtain rfl : own = [] := by simpa [Op.isBalanced] using h
    exact hs
  | cons op rest ih =>
    cases hbracket : op.isBracket with
    | false =>
      rw [Op.isBalanced_cons hbracket] at h
      exact ih own h ((saved_apply hbracket s).trans hs)
    | true =>
      obtain rfl | rfl := Op.eq_of_isBracket hbracket
      · exact ih (s.pen :: own) h (congrArg (s.pen :: ·) hs)
      · cases own with
        | nil => cases h
        | cons pen own => exact ih own h (restore_of_saved hs).2

theorem restore_of_nil {s : Canvas} (h : s.saved = []) : s.apply .restore = (s, none) := by
  simp only [apply, h]

end Canvas

/-- A recording counts the drawing states that a canvas saves. -/
theorem Recording.depth_applyEach (ops : List Op) {r : Recording} {s : Canvas}
    (h : r.depth = s.saved.length) :
    (Surface.applyEach ops r).depth = (Surface.applyEach ops s).saved.length := by
  induction ops generalizing r s with
  | nil => exact h
  | cons op rest ih =>
    refine ih ?_
    cases hbracket : op.isBracket with
    | false =>
      have hdepth : (r.note op).depth = r.depth := by
        cases op <;> first | rfl | cases hbracket
      exact hdepth.trans (h.trans (congrArg List.length (Canvas.saved_apply hbracket s)).symm)
    | true =>
      obtain rfl | rfl := Op.eq_of_isBracket hbracket
      · exact congrArg (· + 1) h
      · change r.depth - 1 = (s.apply .restore).1.saved.length
        cases hsaved : s.saved with
        | nil =>
          -- Neither the count nor the stack goes below the bottom.
          rw [Canvas.restore_of_nil hsaved, h, hsaved]
          rfl
        | cons pen saved =>
          rw [(Canvas.restore_of_saved hsaved).2, h, hsaved]
          rfl

/-- **A save and a restore bracket any drawing.** On any canvas, a save, any operations in which
saves and restores match, be they refused or not, and a restore leave the drawing state and the
saved ones as they were.  A restore that has no save changes nothing.  After any operations
whatsoever, a new recording has counted as many saves without a restore as a new canvas has saved
drawing states. -/
theorem Canvas.save_restore_brackets :
    (∀ (ops : List Op), Op.isBalanced 0 ops → ∀ s : Canvas,
      let t := Surface.applyEach (.save :: ops ++ [.restore]) s
      t.pen = s.pen ∧ t.saved = s.saved) ∧
    (∀ s : Canvas, s.saved = [] → s.apply .restore = (s, none)) ∧
    ∀ (ops : List Op) (size : Size) (viewport : Viewport) (background : Color) (fonts : FontBook),
      (Surface.applyEach ops (Recording.ofSize size)).depth =
        (Surface.applyEach ops (Canvas.blank viewport background fonts)).saved.length := by
  refine ⟨fun ops hops s => ?_, fun s => restore_of_nil, fun ops size viewport background fonts =>
    Recording.depth_applyEach ops rfl⟩
  have hsaved : (Surface.applyEach ops (s.apply .save).1).saved = s.pen :: s.saved :=
    saved_applyEach [] hops rfl
  have hbracketed : Surface.applyEach (.save :: ops ++ [.restore]) s =
      ((Surface.applyEach ops (s.apply .save).1).apply .restore).1 := by
    rw [Surface.applyEach, List.cons_append, List.foldl_cons, List.foldl_append]
    rfl
  simp only [hbracketed]
  exact restore_of_saved hsaved

/-- A drawing with a save of its own and two operations that a small canvas refuses. -/
def Canvas.disturbed : List Op :=
  [.translate 3 4, .arc 0 0 (-1) 0 1, .save, .globalAlpha 0.5, .font ⟨1000, "Arial"⟩,
    .fillText "Text" 0 0, .restore, .lineWidth 7]

/-- Such a drawing leaves nothing of its drawing state behind if it is saved and restored around
it, but it does otherwise. -/
theorem Canvas.save_restore_brackets_disturbed :
    let s := Canvas.blank (.fit ⟨4, 4⟩ 1 ⟨1, 1⟩) .white .empty
    let t := Surface.applyEach (.save :: disturbed ++ [.restore]) s
    Op.isBalanced 0 disturbed ∧ t.pen = s.pen ∧ t.saved = s.saved ∧
      (Surface.applyEach disturbed s).pen ≠ s.pen ∧
      s.saved = [] ∧ s.apply .restore = (s, none) := by
  intro s t
  have hbalanced : Op.isBalanced 0 disturbed := by decide
  obtain ⟨hbracketed, hrestore, -⟩ := save_restore_brackets
  obtain ⟨hpen, hsaved⟩ := hbracketed disturbed hbalanced s
  exact ⟨hbalanced, hpen, hsaved, by decide +kernel, rfl, hrestore s rfl⟩

end SceneLoop
