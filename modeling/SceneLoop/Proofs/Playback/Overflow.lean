import SceneLoop.Playback.Reel
import SceneLoop.Proofs.Drawing.Agreement
import SceneLoop.Proofs.Playback.Player
import SceneLoop.Proofs.Raster.Canvas

/-!
# Rendering where sums are checked

A checked canvas takes drawings as the canvas inside does, and takes note of sums that overflow.  So
where sums are checked, each way to a frame gives the frame that it gives where they wrap around, or
none at all if the program halts.  Without a face for texts it never halts.

## Main results

* `CheckedCanvas.isAgreement_canvas` : taking note of overflow does not change what is drawn.
* `Player.onFrame_agree` : surfaces that agree before a refresh agree after it.
* `Pipeline.renderFrame?_eq_some_iff`, `Pipeline.eq_of_renderSequence?`, `Reel.eq_of_next?` : the
  ways to a frame where sums are checked.
* `Pipeline.renderFrame?_of_no_face` : rendering without faces does not halt.
-/

namespace SceneLoop

/-! ### Surfaces that agree -/

section Agreement

variable {σ τ : Type} [Surface σ] [Surface τ] {R : σ → τ → Prop} {s : σ} {t : τ}

theorem Player.tick_agree (h : Surface.IsAgreement R) (hst : R s t) (p : Player)
    (now : Timestamp) :
    R (p.tick s now).2.1 (p.tick t now).2.1 ∧ (p.tick s now).2.2 = (p.tick t now).2.2 := by
  by_cases hidle : p.state = .idle
  · rw [tick_of_idle hidle, tick_of_idle hidle]
    exact ⟨hst, rfl⟩
  · obtain ⟨hagree, hpainted⟩ := h.paint hst (p.moved now).painter (p.moved now).scene
      (p.moved now).elapsed ((p.moved now).trace.map Trace.toText)
    rw [tick_of_active hidle, tick_of_active hidle]
    exact ⟨hagree, congrArg (fun painted => TickReport.mk _ _ (some painted)) hpainted⟩

/-- Surfaces that agree before a refresh agree after it, and the refresh is answered alike. -/
theorem Player.onFrame_agree (h : Surface.IsAgreement R) (hst : R s t) (p : Player) (host : Host)
    (now : Timestamp) :
    (p.onFrame s host now).1 = (p.onFrame t host now).1 ∧
      R (p.onFrame s host now).2.1 (p.onFrame t host now).2.1 ∧
      (p.onFrame s host now).2.2 = (p.onFrame t host now).2.2 := by
  obtain ⟨hagree, hreport⟩ := tick_agree h hst { p with pending := none } now
  rw [onFrame_eq, onFrame_eq]
  exact ⟨rfl, hagree, by rw [hreport]⟩

end Agreement

namespace CheckedCanvas

/-- Taking note of overflow does not change what is drawn. -/
theorem isAgreement_canvas :
    Surface.IsAgreement fun (s : CheckedCanvas) (t : Canvas) => s.canvas = t where
  size := by
    rintro s _ rfl
    rfl
  apply := by
    rintro op s _ rfl
    exact ⟨rfl, rfl⟩

theorem canvas?_eq_some_iff {s : CheckedCanvas} {canvas : Canvas} :
    s.canvas? = some canvas ↔ s.overflowed = false ∧ s.canvas = canvas := by
  obtain ⟨inner, overflowed⟩ := s
  cases overflowed <;> simp [canvas?]

/-- A checked canvas without faces that has taken note of nothing. -/
structure IsTextless (s : CheckedCanvas) : Prop where
  exact : s.overflowed = false
  no_face : ∀ name, s.canvas.fonts.face? name = none

/-- No operation overflows without a face for its text. -/
theorem IsTextless.apply {s : CheckedCanvas} (h : s.IsTextless) (op : Op) :
    (Surface.apply op s).1.IsTextless := by
  have hoverflows : s.canvas.overflows op = false := by
    cases op with
    | fillText text x y =>
      simp only [Canvas.overflows, FontBook.isAddressable, h.no_face]
      split <;> rfl
    | _ => rfl
  refine ⟨?_, fun name => ?_⟩
  · change (s.overflowed || s.canvas.overflows op) = false
    rw [h.exact, hoverflows]
    rfl
  · change (s.canvas.apply op).1.fonts.face? name = none
    rw [(s.canvas.sameSetting_apply op).fonts]
    exact h.no_face name

theorem isAgreement_isTextless :
    Surface.IsAgreement fun s t : CheckedCanvas => s = t ∧ s.IsTextless where
  size := by
    rintro s _ ⟨rfl, -⟩
    rfl
  apply := by
    rintro op s _ ⟨rfl, h⟩
    exact ⟨⟨rfl, h.apply op⟩, rfl⟩

end CheckedCanvas

/-! ### The ways to a frame -/

namespace Pipeline

variable (p : Pipeline) (scene : Option Scene)

/-- The frame where sums are checked is the one where they wrap around, unless one overflows. -/
theorem renderFrame?_eq_some_iff (elapsed : Duration) (trace : Option String) (f : Frame) :
    p.renderFrame? scene elapsed trace = some f ↔
      (p.painter.paint scene elapsed trace (CheckedCanvas.of p.canvas)).1.overflowed = false ∧
        p.renderFrame scene elapsed trace = f := by
  have hagree := (CheckedCanvas.isAgreement_canvas.paint (s := .of p.canvas) (t := p.canvas) rfl
    p.painter scene elapsed trace).1
  simp only [renderFrame?, Option.map_eq_some_iff, CheckedCanvas.canvas?_eq_some_iff, hagree,
    and_assoc, exists_and_left, exists_eq_left', renderFrame]

theorem eq_of_shotsOn? {times : List Duration} {s : CheckedCanvas} {shots : List (Duration × Frame)}
    (h : p.shotsOn? scene times s = some shots) : shots = p.shotsOn scene times s.canvas := by
  induction times generalizing s shots with
  | nil =>
    obtain ⟨-, -, rfl⟩ := Option.map_eq_some_iff.1 h
    rfl
  | cons elapsed rest ih =>
    obtain ⟨later, hlater, rfl⟩ := Option.map_eq_some_iff.1 h
    have hagree := (CheckedCanvas.isAgreement_canvas.paint rfl p.painter scene elapsed none
      (s := s)).1
    rw [ih hlater, hagree]
    rfl

/-- A sequence where sums are checked is the one where they wrap around. -/
theorem eq_of_renderSequence? {fps : Float} {count : Nat} {r : Rendering}
    (h : p.renderSequence? scene fps count = some r) : r = p.renderSequence scene fps count := by
  obtain ⟨shots, hshots, rfl⟩ := Option.map_eq_some_iff.1 h
  rw [p.eq_of_shotsOn? scene hshots]
  rfl

/-- Without a face for texts a frame is rendered where sums are checked. -/
theorem renderFrame?_of_no_face (hfonts : ∀ name, p.fonts.face? name = none) (elapsed : Duration)
    (trace : Option String) :
    p.renderFrame? scene elapsed trace = some (p.renderFrame scene elapsed trace) := by
  have hstart : (CheckedCanvas.of p.canvas).IsTextless := ⟨rfl, hfonts⟩
  have hend := CheckedCanvas.isAgreement_isTextless.paint ⟨rfl, hstart⟩ p.painter scene elapsed
    trace
  exact (p.renderFrame?_eq_some_iff scene elapsed trace _).2 ⟨hend.1.2.exact, rfl⟩

end Pipeline

/-- A refresh where sums are checked is the one where they wrap around. -/
theorem Reel.eq_of_next? {r r' : Reel} {now : Timestamp} {result : Except Fault TickReport}
    (h : r.next? now = some (r', result)) : r.next now = (r', result) := by
  obtain ⟨player, canvas, host⟩ := r
  obtain ⟨hplayer, hagree, hanswer⟩ := Player.onFrame_agree CheckedCanvas.isAgreement_canvas
    (s := .of canvas) (t := canvas) rfl player (host.fireAny player.pending) now
  simp only [next?, Option.map_eq_some_iff, CheckedCanvas.canvas?_eq_some_iff, hplayer, hagree,
    hanswer] at h
  obtain ⟨_, ⟨-, rfl⟩, hnext⟩ := h
  exact hnext

end SceneLoop
