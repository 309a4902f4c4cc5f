import SceneLoop.Proofs.Playback.Session

/-!
# Controls between two ticks

What a user asks of a player waits for the next tick, except for playing and pausing, which move
nothing by themselves.  So of all that is asked between two ticks only the outcome counts: the last
scene, the last trace, the last theme, whether to start from the beginning, and whether to play.

## Main definitions

* `Control.last?` : what the last control says that says anything.
* `Control.Agree` : controls with the same outcome.

## Main results

* `Player.controlAll_eq` : what some controls leave of a player.
* `Player.tick_controlAll` : controls with the same outcome lead to the same tick.
* `Player.controlAll_superseded` : a scene that is replaced before the tick does not count.
* `Player.controls_coalesce` : controls wait for the tick, and only their outcome counts.
-/

namespace SceneLoop

namespace Control

variable {α : Type} (f : Control → Option α)

/-- What the last control says that says anything. -/
def last? (cs : List Control) : Option α :=
  (cs.filterMap f).getLast?

/-- Whether the next tick is to start from the beginning, be it with a new scene or without. -/
def restarts : Control → Bool
  | .load _ | .enqueue _ | .rewind => true
  | _ => false

/-- Controls with the same outcome, as far as it waits for the tick. -/
structure Agree (n : Normalizer) (cs ds : List Control) : Prop where
  scene : last? (scene? n) cs = last? (scene? n) ds
  trace : last? (trace? n) cs = last? (trace? n) ds
  restarts : cs.any Control.restarts = ds.any Control.restarts
  theme : last? theme? cs = last? theme? ds

theorem last?_append (cs ds : List Control) :
    last? f (cs ++ ds) = (last? f ds).or (last? f cs) := by
  rw [last?, List.filterMap_append, List.getLast?_append]
  rfl

theorem last?_cons (c : Control) (cs : List Control) :
    last? f (c :: cs) = (last? f cs).or (f c) := by
  rw [← List.singleton_append, last?_append]
  congr 1
  cases h : f c <;> simp [last?, h]

/-- A start from the beginning is asked for with a new scene, or by itself. -/
theorem any_restarts (n : Normalizer) (cs : List Control) :
    cs.any restarts = ((last? (scene? n) cs).isSome || cs.any isRewind) := by
  induction cs with
  | nil => rfl
  | cons c cs ih =>
    rw [List.any_cons, List.any_cons, last?_cons, Option.isSome_or, ih]
    cases c <;> simp [restarts, scene?, isRewind]

/-- Where a scene is asked for, there is a last one. -/
theorem exists_last? {cs : List Control} (h : ∃ c ∈ cs, (f c).isSome) :
    ∃ a, last? f cs = some a := by
  obtain ⟨c, hc, hsome⟩ := h
  obtain ⟨a, ha⟩ := Option.isSome_iff_exists.1 hsome
  exact ⟨_, List.getLast?_eq_some_getLast
    (List.ne_nil_of_mem (List.mem_filterMap.2 ⟨c, hc, ha⟩))⟩

end Control

namespace Player

/-- What some controls leave of a player. -/
theorem controlAll_eq (p : Player) (cs : List Control) :
    p.controlAll cs = { p with
      state := cs.foldl (fun state c => c.playState state) p.state
      trace := (Control.last? (Control.trace? p.normalizer) cs).or p.trace
      queued := (Control.last? (Control.scene? p.normalizer) cs).or p.queued
      rewinds := cs.any Control.isRewind || p.rewinds
      painter :=
        p.painter.withTheme ((Control.last? Control.theme? cs).getD p.painter.theme) } := by
  induction cs generalizing p with
  | nil => rfl
  | cons c cs ih =>
    rw [controlAll, List.foldl_cons, ← controlAll, ih, control_eq]
    simp only [Control.last?_cons, Option.or_assoc, List.foldl_cons, List.any_cons,
      Painter.withTheme, Option.getD_or, Bool.or_left_comm, Bool.or_assoc]

theorem restarts_controlAll (p : Player) (cs : List Control) :
    (p.controlAll cs).restarts = (cs.any Control.restarts || p.restarts) := by
  rw [controlAll_eq, restarts, restarts, Control.any_restarts p.normalizer]
  simp only [Option.isSome_or, Bool.or_assoc, Bool.or_left_comm]

theorem upcoming_controlAll (p : Player) (cs : List Control) :
    (p.controlAll cs).upcoming =
      ((Control.last? (Control.scene? p.normalizer) cs).or p.queued).getD p.scene := by
  rw [controlAll_eq, upcoming]

theorem state_controlAll_eq_idle_iff (p : Player) (cs : List Control) :
    (p.controlAll cs).state = .idle ↔ p.state = .idle := by
  induction cs generalizing p with
  | nil => rfl
  | cons c cs ih =>
    rw [controlAll, List.foldl_cons, ← controlAll, ih, control_eq]
    exact c.playState_eq_idle_iff _

variable {σ : Type} [Surface σ] {p : Player}

/-- Controls with the same outcome lead to the same tick. -/
theorem tick_controlAll (hp : p.state ≠ .idle) {cs ds : List Control}
    (h : Control.Agree p.normalizer cs ds)
    (hstate : (p.controlAll cs).state = (p.controlAll ds).state) (s : σ) (now : Timestamp) :
    (p.controlAll cs).tick s now = (p.controlAll ds).tick s now := by
  refine tick_congr (fun hidle => hp ((p.state_controlAll_eq_idle_iff cs).1 hidle)) ?_ s now
  have hplay : cs.foldl (fun state c => c.playState state) p.state =
      ds.foldl (fun state c => c.playState state) p.state := by
    simpa only [controlAll_eq] using hstate
  rw [takeRewind_takeQueued, takeRewind_takeQueued, restarts_controlAll, restarts_controlAll,
    upcoming_controlAll, upcoming_controlAll, h.restarts, h.scene, controlAll_eq p cs,
    controlAll_eq p ds]
  simp only [h.trace, h.theme, hplay]

/-- A scene that is replaced before the tick does not count: of the control that asks for it only
the trace stays. -/
theorem controlAll_superseded (q : Player) {c : Control} (hc : (c.scene? q.normalizer).isSome)
    {after : List Control} (hafter : ∃ e ∈ after, (e.scene? q.normalizer).isSome) :
    q.controlAll (c :: after) =
      { q with trace := (c.trace? q.normalizer).or q.trace }.controlAll after := by
  obtain ⟨scene, hscene⟩ := Control.exists_last? _ hafter
  have hc : c.playState q.state = q.state ∧ c.isRewind = false ∧ c.theme? = none := by
    cases c <;> first | exact ⟨rfl, rfl, rfl⟩ | cases hc
  obtain ⟨hplay, hrewind, htheme⟩ := hc
  rw [controlAll, List.foldl_cons, ← controlAll, control_eq, controlAll_eq, controlAll_eq]
  simp only [hplay, hrewind, htheme, hscene, Option.some_or, Option.getD_none, Bool.false_or,
    Painter.withTheme]

/-- **Controls wait for the tick, and only their outcome counts.** Take a player on a surface.  Some
controls leave its scene and its time as they are until the tick.  Two sequences of controls with
the same outcome and the same play state after them lead to the same tick: the same player, the same
surface and the same report.  The tick shows the last scene that is asked for, and a scene that is
replaced before might as well not have been asked for. -/
theorem controls_coalesce (hp : p.state ≠ .idle) :
    (∀ cs, (p.controlAll cs).scene = p.scene ∧ (p.controlAll cs).elapsed = p.elapsed) ∧
    (∀ cs ds, Control.Agree p.normalizer cs ds →
      (p.controlAll cs).state = (p.controlAll ds).state →
        ∀ (s : σ) now, (p.controlAll cs).tick s now = (p.controlAll ds).tick s now) ∧
    (∀ cs (s : σ) now, ((p.controlAll cs).tick s now).1.scene =
      ((Control.last? (Control.scene? p.normalizer) cs).or p.queued).getD p.scene) ∧
    ∀ before c after, (c.scene? p.normalizer).isSome →
      (∃ e ∈ after, (e.scene? p.normalizer).isSome) →
        let q := p.controlAll before
        p.controlAll (before ++ c :: after) =
          { q with trace := (c.trace? p.normalizer).or q.trace }.controlAll after := by
  have hnormalizer (cs : List Control) : (p.controlAll cs).normalizer = p.normalizer := by
    rw [controlAll_eq]
  refine ⟨fun cs => ?_, fun cs ds hagree hstate => tick_controlAll hp hagree hstate,
    fun cs s now => ?_, fun before c after hc hafter => ?_⟩
  · rw [controlAll_eq]
    exact ⟨rfl, rfl⟩
  · have hactive : (p.controlAll cs).state ≠ .idle := fun hidle =>
      hp ((p.state_controlAll_eq_idle_iff cs).1 hidle)
    obtain ⟨elapsed, hmoved⟩ := (p.controlAll cs).moved_eq now
    rw [tick_of_active hactive, hmoved]
    exact p.upcoming_controlAll cs
  · intro q
    have hq : p.controlAll (before ++ c :: after) = q.controlAll (c :: after) := List.foldl_append
    rw [← hnormalizer before] at hc hafter ⊢
    rw [hq]
    exact q.controlAll_superseded hc hafter

/-- A player on a surface, that is paused. -/
def onSurface : Player :=
  { Player.ofSettings default with state := .paused }

/-- Controls that change their mind. -/
def undecided : List Control :=
  [.enqueue (some (.ofLayers 700 [])), .toggle, .setTheme .dark, .load (.array []),
    .setPlaying true, .setTheme .light, .enqueue (some (.ofLayers 900 []))]

/-- What the undecided controls come to. -/
def decided : List Control :=
  [.load (.array []), .enqueue (some (.ofLayers 900 [])), .rewind, .setTheme .light, .toggle]

/-- The undecided controls lead to the same tick as what they come to, which shows their last
scene. -/
theorem controls_coalesce_undecided :
    ((onSurface.controlAll undecided).tick Recording.sheet ⟨20⟩ =
      (onSurface.controlAll decided).tick Recording.sheet ⟨20⟩) ∧
    ((onSurface.controlAll undecided).tick Recording.sheet ⟨20⟩).1.scene =
      some (.ofLayers 900 []) := by
  have hp : onSurface.state ≠ .idle := by decide
  have hagree : Control.Agree onSurface.normalizer undecided decided := by
    constructor <;> rfl
  obtain ⟨-, htick, hscene, -⟩ := controls_coalesce (σ := Recording) hp
  exact ⟨htick _ _ hagree (by decide) _ _, hscene undecided _ _⟩

end Player

end SceneLoop
