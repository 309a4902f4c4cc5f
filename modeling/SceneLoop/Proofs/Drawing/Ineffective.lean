import SceneLoop.Proofs.Drawing.Unread
import SceneLoop.Proofs.Number.Value
import SceneLoop.Proofs.Playback.Loop
import SceneLoop.Proofs.Scene.Resolved
import SceneLoop.Scene.Warning

/-!
# What warnings are about

A warning about a color or an animation names something that has no effect.  A text that is no color
stands for the color that a missing one stands for, an animation whose span is not positive has no
value, one of a property that drawing does not know changes nothing that is read, and one that
starts after the loop is never reached, since the scene time is at most the period.

The scene time may be the period itself, though, and then an animation that starts just there has
its effect.

## Main definitions

* `Layer.withoutProp`, `Layer.withoutAnimation` : a layer without a property or an animation.
* `Finding.Removes`, `Scene.Without` : a layer and a scene without what a warning is about.
* `Finding.Holds` : what a finding says.
* `Props.SameDrawing` : properties that are drawn alike.

## Main results

* `Layer.holds_of_mem_findings` : what is found holds.
* `Finding.Holds.sameFigure` : what is found has no part in the figure of the layer.
* `Painter.warned_ineffective` : frames are painted alike without it.
-/

namespace SceneLoop

/-! ### Layers without something -/

/-- The properties without a key. -/
def Props.erase (p : Props) (k : PropKey) : Props :=
  { p with known := p.known.setIfInBounds k.index none }

theorem Props.get?_erase (p : Props) (k l : PropKey) :
    (p.erase k).get? l = if k = l then none else p.get? l := by
  by_cases h : k = l
  · subst h
    simp [get?, erase]
  · have hi : k.index.val ≠ l.index.val := fun e => h (PropKey.index_inj (Fin.ext e))
    simp [get?, erase, h, Vector.getElem_setIfInBounds_ne, hi]

namespace Layer

/-- The layer without the property of a key. -/
def withoutProp (l : Layer) (k : PropKey) : Layer :=
  { l with props := l.props.erase k }

/-- The layer without the animation at a position. -/
def withoutAnimation (l : Layer) (j : Nat) : Layer :=
  { l with animations := l.animations.eraseIdx j }

end Layer

/-- A layer, and the layer without the property or the animation that a finding is about. -/
inductive Finding.Removes : Finding → Layer → Layer → Prop
  | notAColor (key : PropKey) (text : String) (l : Layer) :
      Removes (.notAColor key text) l (l.withoutProp key)
  | inert {l : Layer} {j : Nat} {a : Animation} (h : l.animations[j]? = some a) :
      Removes (.inert a) l (l.withoutAnimation j)
  | afterLoop {l : Layer} {j : Nat} {a : Animation} (h : l.animations[j]? = some a)
      (period : UInt64) : Removes (.afterLoop a period) l (l.withoutAnimation j)
  | notDrawn {l : Layer} {j : Nat} {a : Animation} (h : l.animations[j]? = some a) :
      Removes (.notDrawn a) l (l.withoutAnimation j)

/-- A scene, and the scene whose warned layer is without what the warning is about. -/
structure Scene.Without (w : Warning) (a b : Scene) : Prop where
  period : b.period = a.period
  layers : ∃ l m, a.layers[w.layer]? = some l ∧ w.finding.Removes l m ∧
    b.layers = a.layers.set w.layer m

/-! ### Findings -/

/-- What a finding about a layer says, in a loop of a given period. -/
def Finding.Holds (period : UInt64) (l : Layer) : Finding → Prop
  | .unknownKind name => l.kind = .unknown name
  | .notAColor key text =>
    (key = .fill ∨ key = .stroke) ∧ l.props.text? key = some text ∧ Layer.isColor text = false
  | .inert a => a.isInert
  | .afterLoop a q => q = period ∧ period.toFloat ≤ a.start
  | .notDrawn a => a.isKnown = false

namespace Layer

variable {l : Layer} {period : UInt64} {f : Finding}

theorem holds_of_mem_colorFindings {key : PropKey} (hkey : key = .fill ∨ key = .stroke)
    (h : f ∈ l.colorFindings key) : f.Holds period l := by
  rw [colorFindings] at h
  split at h
  · next text htext =>
    split at h
    · cases h
    · next hcolor =>
      obtain rfl := List.mem_singleton.1 h
      exact ⟨hkey, htext, Bool.eq_false_iff.2 hcolor⟩
  · cases h

theorem holds_of_mem_animationFindings {a : Animation} (h : f ∈ animationFindings period a) :
    f.Holds period l := by
  rw [animationFindings, List.mem_append] at h
  rcases h with h | h
  · split at h
    · next hinert =>
      obtain rfl := List.mem_singleton.1 h
      exact hinert
    · split at h
      · next hstart =>
        obtain rfl := List.mem_singleton.1 h
        exact ⟨rfl, hstart⟩
      · cases h
  · split at h
    · next hnone =>
      obtain rfl := List.mem_singleton.1 h
      simpa [Finding.Holds, Animation.isKnown] using hnone
    · cases h

/-- What is found about a layer holds. -/
theorem holds_of_mem_findings (h : f ∈ l.findings period) : f.Holds period l := by
  simp only [findings, List.mem_append, List.mem_flatMap] at h
  rcases h with ((h | h) | h) | ⟨a, -, h⟩
  · rw [kindFindings] at h
    split at h
    · next name hkind =>
      obtain rfl := List.mem_singleton.1 h
      exact hkind
    · cases h
  · exact holds_of_mem_colorFindings (.inl rfl) h
  · exact holds_of_mem_colorFindings (.inr rfl) h
  · exact holds_of_mem_animationFindings h

end Layer

/-- A warning is about the layer at its position. -/
theorem Scene.mem_warnings {s : Scene} {w : Warning} (h : w ∈ s.warnings) :
    ∃ l, s.layers[w.layer]? = some l ∧ w.finding ∈ l.findings s.period := by
  obtain ⟨⟨l, i⟩, hl, hw⟩ := List.mem_flatMap.1 h
  obtain ⟨f, hf, rfl⟩ := List.mem_map.1 hw
  exact ⟨l, List.mem_zipIdx_iff_getElem?.1 hl, hf⟩

/-! ### Colors -/

namespace Figure

variable {p q : Props} {k : PropKey}

theorem color?_congr (h : p.get? k = q.get? k) : color? p k = color? q k := by
  rw [color?, color?, Props.text?, Props.text?, h]

theorem color?_eq_none_of_get? (h : p.get? k = none) : color? p k = none := by
  rw [color?, Props.text?, h]
  rfl

theorem color?_eq_none_of_text {s : String} (htext : p.text? k = some s)
    (hcolor : Layer.isColor s = false) : color? p k = none := by
  cases hcss : Color.ofCss s with
  | ok c =>
    rw [Layer.isColor, hcss] at hcolor
    cases hcolor
  | error e => rw [color?, htext, Option.bind_some, hcss]

end Figure

/-- Properties that are drawn alike: they differ at most in the values of color keys, which stand
for the same colors. -/
structure Props.SameDrawing (p q : Props) : Prop where
  others : ∀ k, k ≠ .fill → k ≠ .stroke → p.get? k = q.get? k
  fill : Figure.color? p .fill = Figure.color? q .fill
  stroke : Figure.color? p .stroke = Figure.color? q .stroke

namespace Props.SameDrawing

variable {p q : Props}

theorem number? (h : p.SameDrawing q) (k : PropKey) (hfill : k ≠ .fill) (hstroke : k ≠ .stroke) :
    p.number? k = q.number? k := by
  rw [Props.number?, Props.number?, h.others k hfill hstroke]

theorem text? (h : p.SameDrawing q) (k : PropKey) (hfill : k ≠ .fill) (hstroke : k ≠ .stroke) :
    p.text? k = q.text? k := by
  rw [Props.text?, Props.text?, h.others k hfill hstroke]

theorem firstNumber? (h : p.SameDrawing q) (keys : List PropKey) (hfill : .fill ∉ keys)
    (hstroke : .stroke ∉ keys) : p.firstNumber? keys = q.firstNumber? keys := by
  induction keys with
  | nil => rfl
  | cons k rest ih =>
    obtain ⟨hk, hrest⟩ := List.ne_and_not_mem_of_not_mem_cons hfill
    obtain ⟨hk', hrest'⟩ := List.ne_and_not_mem_of_not_mem_cons hstroke
    simp only [Props.firstNumber?] at ih ⊢
    rw [List.findSome?_cons, List.findSome?_cons, h.number? k hk.symm hk'.symm, ih hrest hrest']

theorem placement (h : p.SameDrawing q) : Figure.placement p = Figure.placement q := by
  simp (disch := decide) only [Figure.placement, h.number?]

theorem outline (h : p.SameDrawing q) (paint : Op) :
    Figure.outline p paint = Figure.outline q paint := by
  simp (disch := decide) only [Figure.outline, h.stroke, h.number?]

/-- Figures read the color keys as colors only. -/
theorem shape (h : p.SameDrawing q) (palette : Palette) (kind : LayerKind) :
    Figure.shape palette p kind = Figure.shape palette q kind := by
  cases kind with
  | rect => simp (disch := decide) only [Figure.shape, Figure.rect, h.number?, h.fill, h.outline]
  | circle =>
    have hradius : Figure.radius p = Figure.radius q := by
      rw [Figure.radius, Figure.radius, h.firstNumber? _ (by decide) (by decide)]
    simp only [Figure.shape, Figure.circle, hradius, h.fill, h.outline]
  | line =>
    simp (disch := decide) only [Figure.shape, Figure.line, h.number?, h.firstNumber?, h.stroke]
  | text | label =>
    have hsize : Figure.fontSize p = Figure.fontSize q := by
      simp (disch := decide) only [Figure.fontSize, h.number?]
    have hcontent :
        p.firstDisplay? [.content, .text, .label] = q.firstDisplay? [.content, .text, .label] := by
      simp (disch := decide) only [firstDisplay?, List.findSome?_cons, List.findSome?_nil, h.others]
    simp (disch := decide) only [Figure.shape, Figure.text, hsize, hcontent, h.fill, h.text?]
  | unknown name => rfl

theorem sketch (h : p.SameDrawing q) (palette : Palette) (kind : LayerKind) :
    Figure.sketch palette kind p = Figure.sketch palette kind q := by
  rw [Figure.sketch, Figure.sketch, h.placement, h.shape]

/-- Properties are drawn alike without a text that is no color. -/
theorem erase {k : PropKey} (hkey : k = .fill ∨ k = .stroke) {s : String}
    (htext : p.text? k = some s) (hcolor : Layer.isColor s = false) :
    (p.erase k).SameDrawing p := by
  have hsame (l : PropKey) : Figure.color? (p.erase k) l = Figure.color? p l := by
    by_cases hl : k = l
    · subst hl
      rw [Figure.color?_eq_none_of_text htext hcolor]
      exact Figure.color?_eq_none_of_get? (by rw [get?_erase, if_pos rfl])
    · exact Figure.color?_congr (by rw [get?_erase, if_neg hl])
  refine ⟨fun l hfill hstroke => ?_, hsame .fill, hsame .stroke⟩
  rw [get?_erase, if_neg]
  rintro rfl
  exact hkey.elim hfill hstroke

/-- Giving a key a number keeps properties alike. -/
theorem set (h : p.SameDrawing q) (k : PropKey) (v : PropValue) :
    (p.set k v).SameDrawing (q.set k v) := by
  have hsame {l : PropKey} (hl : Figure.color? p l = Figure.color? q l) :
      Figure.color? (p.set k v) l = Figure.color? (q.set k v) l := by
    by_cases hk : k = l
    · exact Figure.color?_congr (by rw [get?_set, get?_set, if_pos hk, if_pos hk])
    · have hp : Figure.color? (p.set k v) l = Figure.color? p l :=
        Figure.color?_congr (by rw [get?_set, if_neg hk])
      have hq : Figure.color? (q.set k v) l = Figure.color? q l :=
        Figure.color?_congr (by rw [get?_set, if_neg hk])
      rw [hp, hq, hl]
  refine ⟨fun l hfill hstroke => ?_, hsame h.fill, hsame h.stroke⟩
  rw [get?_set, get?_set, h.others l hfill hstroke]

theorem animate (h : p.SameDrawing q) (t : Float) (a : Animation) :
    (Layer.animate t p a).SameDrawing (Layer.animate t q a) := by
  rw [Layer.animate, Layer.animate]
  split
  · rw [setNumber, setNumber]
    split
    · exact h.set _ _
    · exact ⟨h.others, h.fill, h.stroke⟩
  · exact h

/-- Animations keep properties alike. -/
theorem foldl_animate (h : p.SameDrawing q) (t : Float) (as : List Animation) :
    (as.foldl (Layer.animate t) p).SameDrawing (as.foldl (Layer.animate t) q) := by
  induction as generalizing p q with
  | nil => exact h
  | cons a rest ih => exact ih (h.animate t a)

end Props.SameDrawing

/-! ### Animations without effect -/

namespace Layer

variable {l : Layer} {t : Float} {a : Animation}

/-- An animation without a value leaves the properties alone. -/
theorem known_animate_of_valueAt_none (h : a.valueAt t = none) (p : Props) :
    (animate t p a).known = p.known := by
  rw [animate, h]

theorem known_foldl_eraseIdx (h : ∀ p, (animate t p a).known = p.known) {as : List Animation}
    {j : Nat} (hj : as[j]? = some a) (p : Props) :
    ((as.eraseIdx j).foldl (animate t) p).known = (as.foldl (animate t) p).known := by
  induction as generalizing j p with
  | nil => cases hj
  | cons b rest ih =>
    cases j with
    | zero =>
      cases hj
      exact (known_foldl_animate t rest (h p).symm).trans (known_foldl_animate t rest rfl).symm
    | succ j => exact ih hj (animate t p b)

/-- An animation that leaves the known keys alone has no part in the figure of its layer. -/
theorem sameFigure_withoutAnimation (palette : Palette) {j : Nat} (hj : l.animations[j]? = some a)
    (h : ∀ p, (animate t p a).known = p.known) :
    (l.withoutAnimation j).SameFigure palette t l :=
  Figure.sketch_congr palette l.kind (known_foldl_eraseIdx h hj l.props)

end Layer

/-! ### Frames -/

/-- What is found has no part in the figure of the layer, at a scene time before the start of the
animation, if one is said to start after the loop. -/
theorem Finding.Holds.sameFigure {period : UInt64} {l m : Layer} {f : Finding}
    (h : f.Holds period l) (hremoves : f.Removes l m) {t : Float}
    (ht : ∀ a q, f = .afterLoop a q → t < a.start) (palette : Palette) :
    m.SameFigure palette t l := by
  cases hremoves with
  | notAColor key text =>
    obtain ⟨hkey, htext, hcolor⟩ := h
    have hprops := (Props.SameDrawing.erase hkey htext hcolor).foldl_animate t l.animations
    exact hprops.sketch palette l.kind
  | inert hj =>
    exact Layer.sameFigure_withoutAnimation palette hj fun p =>
      Layer.known_animate_of_valueAt_none (Animation.valueAt_of_isInert h t) p
  | afterLoop hj q =>
    exact Layer.sameFigure_withoutAnimation palette hj fun p =>
      Layer.known_animate_of_valueAt_none (Animation.valueAt_of_lt (ht _ q rfl)) p
  | notDrawn hj =>
    exact Layer.sameFigure_withoutAnimation palette hj fun p =>
      Layer.known_animate_of_unknown h t p

theorem Layer.SameFigure.forall₂_set {palette : Palette} {t : Float} {l m : Layer}
    (h : m.SameFigure palette t l) {layers : List Layer} {i : Nat} (hi : layers[i]? = some l) :
    List.Forall₂ (SameFigure palette t) (layers.set i m) layers := by
  induction layers generalizing i with
  | nil => cases hi
  | cons k rest ih =>
    cases i with
    | zero =>
      cases hi
      exact .cons h (List.forall₂_same.2 fun _ _ => rfl)
    | succ i => exact .cons rfl (ih hi)

variable {σ : Type} [Surface σ]

/-- **Warnings are about what has no effect.** Take a warning that a fill or an outline is no color,
or that an animation has no positive span, starts after the loop or is of a property that is not
drawn.  Every frame is painted the same on every surface without that property or that animation, in
every theme, but for one case: an animation that starts just when the loop ends has its effect at
the end of the loop. -/
theorem Painter.warned_ineffective {a b : Scene} {w : Warning} (hw : w ∈ a.warnings)
    (h : a.Without w b) {elapsed : Duration} (helapsed : elapsed.IsProper)
    (htime : ∀ animation period, w.finding = .afterLoop animation period →
      (a.effectiveTime elapsed).millis < a.period.toFloat ∨ a.period.toFloat < animation.start)
    (p : Painter) (trace : Option String) (s : σ) :
    p.paint (some b) elapsed trace s = p.paint (some a) elapsed trace s := by
  obtain ⟨l, hl, hfinding⟩ := Scene.mem_warnings hw
  obtain ⟨l', m, hl', hremoves, hlayers⟩ := h.layers
  obtain rfl : l = l' := Option.some.inj (hl.symm.trans hl')
  have hholds := Layer.holds_of_mem_findings hfinding
  refine p.paint_congr_at h.period ?_ trace s
  rw [hlayers]
  refine (hholds.sameFigure hremoves (fun animation period heq => ?_) _).forall₂_set hl
  -- The scene time is at most the period, and this is at most the start.
  rw [heq] at hholds
  have hle : (a.effectiveTime elapsed).millis ≤ a.period.toFloat :=
    Duration.wrap_le a.period_ne_zero (Binary64.isNaN_of_isFinite helapsed.isFinite)
  obtain ⟨-, hstart⟩ := hholds
  rcases htime animation period heq with hlt | hlt
  · exact Binary64.lt_of_lt_of_le hlt hstart
  · exact Binary64.lt_of_le_of_lt hle hlt

namespace Scene

/-- An animation that starts when a loop of one second ends. -/
def lateSlide : Animation :=
  ⟨"x", 1000, 2000, 50, 60⟩

/-- A rectangle in a loop of one second. -/
def resting (animations : List Animation) : Scene :=
  .ofLayers 1000 [⟨.rect, .empty, animations⟩]

theorem mem_warnings_lateSlide :
    (⟨0, .afterLoop lateSlide 1000⟩ : Warning) ∈ (resting [lateSlide]).warnings :=
  List.mem_singleton.2 rfl

theorem without_lateSlide :
    (resting [lateSlide]).Without ⟨0, .afterLoop lateSlide 1000⟩ (resting []) :=
  ⟨rfl, _, _, rfl, .afterLoop (j := 0) rfl 1000, rfl⟩

end Scene

theorem Painter.warned_ineffective_lateSlide :
    let p := Painter.ofSettings default
    let w : Warning := ⟨0, .afterLoop Scene.lateSlide 1000⟩
    let elapsed := Duration.ofMillis 5500
    w ∈ (Scene.resting [Scene.lateSlide]).warnings ∧
      (Scene.resting [Scene.lateSlide]).Without w (Scene.resting []) ∧ elapsed.IsProper ∧
      (∀ animation period, w.finding = .afterLoop animation period →
        ((Scene.resting [Scene.lateSlide]).effectiveTime elapsed).millis <
            (Scene.resting [Scene.lateSlide]).period.toFloat ∨
          (Scene.resting [Scene.lateSlide]).period.toFloat < animation.start) ∧
      p.paint (some (Scene.resting [])) elapsed none (Recording.ofSize ⟨400, 300⟩) =
        p.paint (some (Scene.resting [Scene.lateSlide])) elapsed none
          (Recording.ofSize ⟨400, 300⟩) := by
  have htime : ((Scene.resting [Scene.lateSlide]).effectiveTime (.ofMillis 5500)).millis <
      (Scene.resting [Scene.lateSlide]).period.toFloat := by decide
  have hproper := Duration.isProper_ofMillis 5500
  exact ⟨Scene.mem_warnings_lateSlide, Scene.without_lateSlide, hproper, fun _ _ _ => .inl htime,
    warned_ineffective Scene.mem_warnings_lateSlide Scene.without_lateSlide hproper
      (fun _ _ _ => .inl htime) _ none _⟩

/-- At the end of the loop the animation has its effect. -/
theorem Painter.lateSlide_effective :
    (⟨0, .afterLoop Scene.lateSlide 1000⟩ : Warning) ∈ (Scene.resting [Scene.lateSlide]).warnings ∧
      (Scene.resting [Scene.lateSlide]).Without ⟨0, .afterLoop Scene.lateSlide 1000⟩
        (Scene.resting []) ∧
      ((Painter.ofSettings default).paint (some (Scene.resting [])) (.ofMillis 1000) none
          (Recording.ofSize ⟨400, 300⟩)).1.ops ≠
        ((Painter.ofSettings default).paint (some (Scene.resting [Scene.lateSlide]))
          (.ofMillis 1000) none (Recording.ofSize ⟨400, 300⟩)).1.ops :=
  ⟨Scene.mem_warnings_lateSlide, Scene.without_lateSlide, by decide +kernel⟩

end SceneLoop
