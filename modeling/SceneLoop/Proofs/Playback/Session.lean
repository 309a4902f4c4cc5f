import SceneLoop.Proofs.Playback.Player

/-!
# Sessions

A session is a player with its host.  It goes on by events: the player is put on a surface or taken
off it, a user asks for something, a tick comes, or the host calls back for a refresh.

## Main definitions

* `Control`, `Player.controlAll` : what a user asks of a player.
* `Event`, `Session`, `Session.step`, `Session.run` : what happens to a player, one after the other.

## Main results

* `Player.control_eq` : what a user asks for changes.
* `Session.player_step_of_tickAt?` : a refresh leaves the player as a tick does.
* `Session.surface_step_of_tickAt?` : a refresh paints what a tick paints.
-/

namespace SceneLoop

/-- What a user asks of a player. -/
inductive Control where
  /-- Play a payload. -/
  | load (payload : Json)
  /-- Play a scene, or none. -/
  | enqueue (scene : Option Scene)
  /-- Start from the beginning. -/
  | rewind
  /-- Pause, or play on. -/
  | toggle
  /-- Play, or pause. -/
  | setPlaying (playing : Bool)
  /-- Paint in another theme. -/
  | setTheme (theme : Theme)

namespace Control

/-- The scene, or none, that is to be played. -/
def scene? (n : Normalizer) : Control → Option (Option Scene)
  | .load payload => some (n.normalize payload).scene
  | .enqueue scene => some scene
  | _ => none

/-- How the payload that is to be played was understood. -/
def trace? (n : Normalizer) : Control → Option Trace
  | .load payload => some (n.normalize payload).trace
  | _ => none

/-- The theme to paint in. -/
def theme? : Control → Option Theme
  | .setTheme theme => some theme
  | _ => none

/-- Whether nothing but a start from the beginning is asked for. -/
def isRewind : Control → Bool
  | .rewind => true
  | _ => false

/-- Whether a player plays after it has done what is asked. -/
def playState (c : Control) (state : PlayState) : PlayState :=
  match c, state with
  | .toggle, state => state.flip
  | .setPlaying _, .idle => .idle
  | .setPlaying playing, _ => if playing then .running else .paused
  | _, state => state

theorem playState_eq_idle_iff (c : Control) (state : PlayState) :
    c.playState state = .idle ↔ state = .idle := by
  cases c with
  | toggle => cases state <;> decide
  | setPlaying playing => cases state <;> cases playing <;> decide
  | load | enqueue | rewind | setTheme => rfl

end Control

namespace Player

/-- Do what a user asks. -/
def control (p : Player) : Control → Player
  | .load payload => (p.load payload).1
  | .enqueue scene => p.enqueue scene
  | .rewind => p.rewind
  | .toggle => p.toggle
  | .setPlaying playing => p.setPlaying playing
  | .setTheme theme => p.setTheme theme

/-- Do all that a user asks, one after the other. -/
def controlAll (p : Player) (cs : List Control) : Player :=
  cs.foldl control p

/-- What a user asks for changes the play state, what waits for the next tick, and the theme. -/
theorem control_eq (p : Player) (c : Control) :
    p.control c = { p with
      state := c.playState p.state
      trace := (c.trace? p.normalizer).or p.trace
      queued := (c.scene? p.normalizer).or p.queued
      rewinds := c.isRewind || p.rewinds
      painter := p.painter.withTheme (c.theme?.getD p.painter.theme) } := by
  cases c with
  | setPlaying playing =>
    obtain ⟨state, elapsed, lastTick⟩ := p
    cases state <;> cases playing <;> rfl
  | load | enqueue | rewind | toggle | setTheme => rfl

end Player

/-- What happens to a player.  A tick and a refresh bring the surface to paint on. -/
inductive Event (σ : Type) where
  /-- It starts on a new surface. -/
  | attach
  /-- It leaves its surface. -/
  | detach
  /-- A user asks for something. -/
  | control (c : Control)
  /-- It is to paint a frame. -/
  | tick (surface : σ) (now : Timestamp)
  /-- The host calls back for the request with a handle. -/
  | refresh (handle : Handle) (surface : σ) (now : Timestamp)

/-- The surface that an event brings. -/
def Event.surface? {σ : Type} : Event σ → Option σ
  | .tick surface _ | .refresh _ surface _ => some surface
  | _ => none

/-- The moment of an event that is a tick, by itself or in a refresh. -/
def Event.tickAt? {σ : Type} : Event σ → Option Timestamp
  | .tick _ now | .refresh _ _ now => some now
  | _ => none

/-- A player and its host. -/
structure Session where
  /-- The player. -/
  player : Player
  /-- The host. -/
  host : Host

/-- A surface to paint on. -/
def Recording.sheet : Recording :=
  .ofSize ⟨400, 300⟩

namespace Session

/-- A new player, and a host that was not asked for anything and answers in some way. -/
def start (s : Settings) (answer : Nat → Except Fault Handle) : Session :=
  ⟨.ofSettings s, { answer }⟩

variable {σ : Type} [Surface σ]

/-- The host at the moment when the player takes part in an event: it has called back if it does. -/
def hostAt (S : Session) : Event σ → Host
  | .refresh handle _ _ => S.host.fire handle
  | _ => S.host

/-- The session after an event, and the surface that the event brought. -/
def step (S : Session) (e : Event σ) : Session × Option σ :=
  match e with
  | .attach =>
    let (player, host, _) := S.player.attach (S.hostAt e)
    (⟨player, host⟩, none)
  | .detach =>
    let (player, host) := S.player.detach (S.hostAt e)
    (⟨player, host⟩, none)
  | .control c => (⟨S.player.control c, S.hostAt e⟩, none)
  | .tick surface now =>
    let (player, surface, _) := S.player.tick surface now
    (⟨player, S.hostAt e⟩, some surface)
  | .refresh _ surface now =>
    let (player, surface, host, _) := S.player.onFrame surface (S.hostAt e) now
    (⟨player, host⟩, some surface)

/-- The session after some events. -/
def run (S : Session) (es : List (Event σ)) : Session :=
  es.foldl (fun S e => (S.step e).1) S

theorem run_append (S : Session) (es fs : List (Event σ)) :
    S.run (es ++ fs) = (S.run es).run fs :=
  List.foldl_append

/-- A refresh leaves the player as a tick does, but for the refresh that is asked for. -/
theorem player_step_of_tickAt? (S : Session) {e : Event σ} {now : Timestamp}
    (he : e.tickAt? = some now) :
    ∃ pending, (S.step e).1.player = { S.player.ticked now with pending } := by
  cases e with
  | attach | detach | control => cases he
  | tick s now =>
    obtain rfl := Option.some.inj he
    exact ⟨(S.player.ticked now).pending, S.player.fst_tick s now⟩
  | refresh handle s now =>
    obtain rfl := Option.some.inj he
    obtain ⟨pending, hschedule⟩ :=
      { S.player.ticked now with pending := none }.schedule_eq (S.host.fire handle)
    refine ⟨pending, ?_⟩
    simp only [step, hostAt, Player.onFrame_eq, hschedule]

/-- A refresh paints what a tick paints. -/
theorem surface_step_of_tickAt? (S : Session) {e : Event σ} {now : Timestamp}
    (he : e.tickAt? = some now) {s : σ} (hs : e.surface? = some s) :
    ∃ pending, (S.step e).2 = some (Player.tick { S.player with pending } s now).2.1 := by
  cases e with
  | attach | detach | control => cases he
  | tick =>
    obtain ⟨rfl, rfl⟩ := And.intro (Option.some.inj he) (Option.some.inj hs)
    exact ⟨S.player.pending, rfl⟩
  | refresh =>
    obtain ⟨rfl, rfl⟩ := And.intro (Option.some.inj he) (Option.some.inj hs)
    refine ⟨none, ?_⟩
    simp only [step, Player.onFrame_eq]

end Session

end SceneLoop
