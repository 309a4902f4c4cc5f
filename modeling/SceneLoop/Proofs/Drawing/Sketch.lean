import SceneLoop.Drawing.Painter

/-!
# The operations of sketches

A sketch is drawn between a save and a restore and has none of its own, whatever it draws.  It
begins a path before it paints one, so that no path is left over for it from the sketch before.

## Main definitions

* `Op.isBracket` : the operations that save and restore.
* `Op.beginsPath` : operations that begin a path before they paint one.
* `Layer.drawNext` : what drawing one more layer does.

## Main results

* `Sketch.applyAll_relates` : what every operation keeps, all of them keep.
* `Sketch.applyAll_agree` : what every operation keeps between two surfaces, all of them keep.
* `Layer.drawAll_agree` : what every layer keeps between two surfaces, all of them keep.
* `Layer.snd_drawAll` : the report counts the faults of the layers.
* `Figure.isBracket_sketch`, `DemoSettings.isBracket_sketch` : sketches neither save nor restore.
* `Figure.beginsPath_sketch`, `DemoSettings.beginsPath_sketch` : sketches begin their paths.
-/

namespace SceneLoop

/-- The operations that save and restore the drawing state. -/
def Op.isBracket : Op → Bool
  | .save | .restore => true
  | _ => false

/-- Whether operations begin a path before they paint one. -/
def Op.beginsPath : List Op → Bool
  | [] | .beginPath :: _ => true
  | .fill :: _ | .stroke :: _ => false
  | _ :: rest => beginsPath rest

theorem Op.beginsPath_cons {op : Op} {rest : List Op} (h : Op.beginsPath (op :: rest)) :
    op = .beginPath ∨ op ≠ .fill ∧ op ≠ .stroke ∧ Op.beginsPath rest := by
  cases op <;> simp_all [Op.beginsPath]

/-! ### Operations in order -/

namespace Sketch

variable {σ : Type} [Surface σ]

theorem applyAll_cons (op : Op) (rest : List Op) (s : σ) :
    applyAll (op :: rest) s =
      match (Surface.apply op s).2 with
      | none => applyAll rest (Surface.apply op s).1
      | some fault => ((Surface.apply op s).1, some fault) := by
  rw [applyAll]
  split <;> simp_all

/-- What every operation keeps, all of them keep, also up to one that is refused. -/
theorem applyAll_relates {R : σ → σ → Prop} (hrefl : ∀ s, R s s)
    (htrans : ∀ s t u, R s t → R t u → R s u) {ops : List Op}
    (h : ∀ op ∈ ops, ∀ s, R (Surface.apply op s).1 s) (s : σ) : R (applyAll ops s).1 s := by
  induction ops generalizing s with
  | nil => exact hrefl s
  | cons op rest ih =>
    obtain ⟨hop, hrest⟩ := List.forall_mem_cons.1 h
    rw [applyAll_cons]
    split
    · exact htrans _ _ _ (ih hrest _) (hop s)
    · exact hop s

/-- What every operation keeps between two surfaces, all of them keep, if both surfaces refuse the
same ones. -/
theorem applyAll_agree {τ : Type} [Surface τ] {R : σ → τ → Prop} {ops : List Op}
    (h : ∀ op ∈ ops, ∀ s t, R s t → R (Surface.apply op s).1 (Surface.apply op t).1 ∧
      (Surface.apply op s).2 = (Surface.apply op t).2) {s : σ} {t : τ} (hst : R s t) :
    R (applyAll ops s).1 (applyAll ops t).1 ∧ (applyAll ops s).2 = (applyAll ops t).2 := by
  induction ops generalizing s t with
  | nil => exact ⟨hst, rfl⟩
  | cons op rest ih =>
    obtain ⟨hop, hrest⟩ := List.forall_mem_cons.1 h
    obtain ⟨hnext, hfault⟩ := hop s t hst
    rw [applyAll_cons, applyAll_cons, hfault]
    cases (Surface.apply op t).2 with
    | none => exact ih hrest hnext
    | some fault => exact ⟨hnext, rfl⟩

theorem run_fst (sketch : Sketch) (s : σ) : (sketch.run s).1 = (applyAll sketch.ops s).1 := by
  rw [run]
  split <;> simp_all

theorem run_snd (sketch : Sketch) (s : σ) :
    (sketch.run s).2 = (applyAll sketch.ops s).2.or sketch.fault := by
  rw [run]
  split <;> simp_all

theorem draw_fst (sketch : Sketch) (s : σ) :
    (sketch.draw s).1 =
      (Surface.apply .restore (applyAll sketch.ops (Surface.apply .save s).1).1).1 := by
  rw [← run_fst]
  rfl

theorem draw_snd (sketch : Sketch) (s : σ) :
    (sketch.draw s).2 = (applyAll sketch.ops (Surface.apply .save s).1).2.or sketch.fault := by
  rw [← run_snd]
  rfl

end Sketch

/-! ### Layers in order -/

/-- The report counts each layer once. -/
theorem DrawReport.foldl_count (faultOf : Layer → Option DrawFault) (layers : List Layer)
    (report : DrawReport) :
    layers.foldl (fun report l => report.count (faultOf l)) report =
      ⟨report.drawn + layers.countP fun l => !(faultOf l).isSome,
        report.failed + layers.countP fun l => (faultOf l).isSome⟩ := by
  induction layers generalizing report with
  | nil => rfl
  | cons l rest ih =>
    rw [List.foldl_cons, ih, List.countP_cons, List.countP_cons]
    cases faultOf l <;> simp [count] <;> omega

namespace Layer

variable {σ : Type} [Surface σ]

/-- Draw one more layer, and count it. -/
def drawNext (palette : Palette) (t : Float) (acc : σ × DrawReport) (l : Layer) :
    σ × DrawReport :=
  ((l.draw palette t acc.1).1, acc.2.count (l.draw palette t acc.1).2)

theorem drawAll_eq_foldl (palette : Palette) (t : Float) (layers : List Layer) (s : σ) :
    drawAll palette t layers s = layers.foldl (drawNext palette t) (s, {}) := by
  unfold drawAll
  rfl

/-- What every layer keeps between two surfaces, all of them keep, and the report is the same, if
the same layers cannot be drawn on either. -/
theorem drawAll_agree {τ : Type} [Surface τ] {R : σ → τ → Prop} {palette : Palette} {time : Float}
    {layers : List Layer}
    (h : ∀ l ∈ layers, ∀ s t, R s t → R (l.draw palette time s).1 (l.draw palette time t).1 ∧
      (l.draw palette time s).2 = (l.draw palette time t).2) {s : σ} {t : τ} (hst : R s t) :
    R (drawAll palette time layers s).1 (drawAll palette time layers t).1 ∧
      (drawAll palette time layers s).2 = (drawAll palette time layers t).2 := by
  rw [drawAll_eq_foldl, drawAll_eq_foldl]
  generalize ({} : DrawReport) = report
  induction layers generalizing s t report with
  | nil => exact ⟨hst, rfl⟩
  | cons l rest ih =>
    obtain ⟨hl, hrest⟩ := List.forall_mem_cons.1 h
    obtain ⟨hnext, hfault⟩ := hl s t hst
    rw [List.foldl_cons, List.foldl_cons, drawNext, drawNext, hfault]
    exact ih hrest hnext _

/-- Layers after a first one see only the surface that it leaves. -/
theorem fst_drawAll_cons (palette : Palette) (t : Float) (l : Layer) (rest : List Layer) (s : σ) :
    (drawAll palette t (l :: rest) s).1 =
      (drawAll palette t rest (l.draw palette t s).1).1 := by
  have hfst (layers : List Layer) (s : σ) (report : DrawReport) :
      (layers.foldl (drawNext palette t) (s, report)).1 =
        layers.foldl (fun s l => (l.draw palette t s).1) s := by
    induction layers generalizing s report with
    | nil => rfl
    | cons l rest ih => exact ih _ _
  rw [drawAll_eq_foldl, drawAll_eq_foldl, hfst, hfst, List.foldl_cons]

/-- The report counts the faults of the layers, if a layer has the same one on all surfaces that
the layers before it may leave. -/
theorem snd_drawAll {P : σ → Prop} {palette : Palette} {t : Float}
    {faultOf : Layer → Option DrawFault}
    (hkeep : ∀ (l : Layer) s, P s → P (l.draw palette t s).1)
    (hfault : ∀ (l : Layer) s, P s → (l.draw palette t s).2 = faultOf l) (layers : List Layer)
    {s : σ} (hs : P s) :
    (drawAll palette t layers s).2 =
      layers.foldl (fun report l => report.count (faultOf l)) {} := by
  rw [drawAll_eq_foldl]
  generalize ({} : DrawReport) = report
  induction layers generalizing s report with
  | nil => rfl
  | cons l rest ih =>
    rw [List.foldl_cons, List.foldl_cons, drawNext, hfault l s hs]
    exact ih (hkeep l s hs) _

end Layer

/-! ### Figures -/

namespace Figure

theorem isBracket_placement (p : Props) : ∀ op ∈ placement p, op.isBracket = false := by
  simp only [placement]
  split <;> simp [Op.isBracket]

theorem isBracket_outline (p : Props) {paint : Op} (h : paint.isBracket = false) :
    ∀ op ∈ outline p paint, op.isBracket = false := by
  rw [outline]
  split
  · simp only [List.forall_mem_cons]
    exact ⟨rfl, rfl, h, by simp⟩
  · simp

theorem isBracket_shape (palette : Palette) (p : Props) (kind : LayerKind) :
    ∀ op ∈ (shape palette p kind).ops, op.isBracket = false := by
  cases kind with
  | rect =>
    simp only [shape, rect, List.forall_mem_append, List.forall_mem_cons]
    exact ⟨⟨rfl, rfl, by simp⟩, isBracket_outline p rfl⟩
  | circle =>
    simp only [shape, circle]
    split
    · simp
    · simp only [List.forall_mem_append, List.forall_mem_cons]
      exact ⟨⟨rfl, rfl, rfl, rfl, by simp⟩, isBracket_outline p rfl⟩
  | line | text | label | unknown =>
    simp [shape, line, text, marker, Op.isBracket]

/-- The sketch of a layer neither saves nor restores. -/
theorem isBracket_sketch (palette : Palette) (kind : LayerKind) (p : Props) :
    ∀ op ∈ (sketch palette kind p).ops, op.isBracket = false := by
  simp only [sketch, List.forall_mem_append]
  exact ⟨isBracket_placement p, isBracket_shape palette p kind⟩

theorem beginsPath_placement (p : Props) (ops : List Op) :
    Op.beginsPath (placement p ++ ops) = Op.beginsPath ops := by
  simp only [placement]
  split <;> rfl

theorem beginsPath_shape (palette : Palette) (p : Props) (kind : LayerKind) :
    Op.beginsPath (shape palette p kind).ops := by
  cases kind with
  | rect =>
    simp only [shape, rect, outline]
    split <;> rfl
  | circle =>
    simp only [shape, circle]
    split <;> rfl
  | line | text | label | unknown => rfl

/-- The sketch of a layer begins a path before it paints one. -/
theorem beginsPath_sketch (palette : Palette) (kind : LayerKind) (p : Props) :
    Op.beginsPath (sketch palette kind p).ops := by
  simp only [sketch, beginsPath_placement]
  exact beginsPath_shape palette p kind

end Figure

/-! ### The demo -/

namespace DemoSettings

theorem isBracket_traceOps (d : DemoSettings) (size : Size) (trace : Option String) :
    ∀ op ∈ d.traceOps size trace, op.isBracket = false := by
  cases trace with
  | none => simp [traceOps]
  | some trace =>
    simp only [traceOps]
    split <;> simp [Op.isBracket]

/-- The demo neither saves nor restores. -/
theorem isBracket_sketch (d : DemoSettings) (palette : Palette) (size : Size)
    (elapsed : Duration) (trace : Option String) :
    ∀ op ∈ (d.sketch palette size elapsed trace).ops, op.isBracket = false := by
  simp only [sketch, List.forall_mem_append]
  exact ⟨by simp [Op.isBracket], d.isBracket_traceOps size trace⟩

/-- The demo begins a path before it paints one. -/
theorem beginsPath_sketch (d : DemoSettings) (palette : Palette) (size : Size)
    (elapsed : Duration) (trace : Option String) :
    Op.beginsPath (d.sketch palette size elapsed trace).ops :=
  rfl

end DemoSettings

end SceneLoop
