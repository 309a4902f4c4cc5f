import SceneLoop.Drawing.Painter
import SceneLoop.Payload.Normalization
import SceneLoop.Playback.Host

/-!
# Playback

A player has the clock and the scene of one surface.  The host calls it once for each refresh; it
moves its clock, paints, and asks for the next refresh.  A new scene and a rewind wait for the next
tick, so that nothing changes in the middle of one.

## Main definitions

* `Player`, `Player.ofSettings` : the state of playback.
* `Player.attach`, `Player.detach`, `Player.onFrame` : what the host asks of a player.
* `Player.tick` : one frame.
* `Player.load`, `Player.enqueue`, `Player.rewind`, `Player.toggle` : what a user asks of a player.
-/

namespace SceneLoop

/-- Whether a player plays. -/
inductive PlayState where
  /-- Without a surface. -/
  | idle
  /-- The clock moves. -/
  | running
  /-- The clock stands still. -/
  | paused
deriving DecidableEq

namespace PlayState

/-- The name of a state. -/
def name : PlayState → String
  | .idle => "idle"
  | .running => "running"
  | .paused => "paused"

/-- Running instead of paused, and the other way round. -/
def flip : PlayState → PlayState
  | .idle => .idle
  | .running => .paused
  | .paused => .running

end PlayState

/-- What one tick did. -/
structure TickReport where
  /-- How far the clock was to move. -/
  delta : Duration
  /-- The playback time after the tick. -/
  elapsed : Duration
  /-- What was painted, if anything. -/
  painted : Option Painted

/-- The state of playback. -/
structure Player where
  /-- Whether it plays. -/
  state : PlayState := .idle
  /-- The playback time. -/
  elapsed : Duration := .zero
  /-- When the last tick was. -/
  lastTick : Option Timestamp := none
  /-- The scene that is shown. -/
  scene : Option Scene := none
  /-- How the last payload was understood. -/
  trace : Option Trace := none
  /-- The scene, or none, that is shown from the next tick on. -/
  queued : Option (Option Scene) := none
  /-- Whether the next tick starts from the beginning. -/
  rewinds : Bool := false
  /-- The refresh that was asked for. -/
  pending : Option Handle := none
  /-- Paints frames. -/
  painter : Painter
  /-- Understands payloads. -/
  normalizer : Normalizer
  /-- The most that the clock moves in one tick, in milliseconds. -/
  maxFrameDelta : Float
  /-- Whether playback starts with the surface. -/
  autoplay : Bool

namespace Player

/-- A player without a surface. -/
def ofSettings (s : Settings) : Player where
  painter := .ofSettings s
  normalizer := .ofPeriod s.playback.defaultPeriod
  maxFrameDelta := s.playback.maxFrameDelta
  autoplay := s.playback.autoplay

/-- Whether the clock moves. -/
def isPlaying (p : Player) : Bool :=
  p.state = .running

/-- Whether the demo is shown. -/
def usesDemo (p : Player) : Bool :=
  p.painter.showsDemo p.scene

/-- Whether a refresh was asked for. -/
def hasPending (p : Player) : Bool :=
  p.pending.isSome

/-- The state of playback in one line. -/
def statusLine (p : Player) : String :=
  "Status: " ++ (if p.usesDemo then "Demo" else "Visualization") ++ " | Playing: " ++
    (if p.isPlaying then "Yes" else "No")

/-! ### The host -/

/-- Ask for the next refresh, unless it was asked for or there is no surface. -/
def schedule (p : Player) (h : Host) : Player × Host × Option Fault :=
  if p.state = .idle || p.pending.isSome then (p, h, none)
  else
    match h.request with
    | (h, .ok handle) => ({ p with pending := some handle }, h, none)
    | (h, .error fault) => (p, h, some fault)

/-- Start on a new surface and ask for the first refresh. -/
def attach (p : Player) (h : Host) : Player × Host × Option Fault :=
  { p with state := if p.autoplay then .running else .paused, lastTick := none }.schedule h

/-- Leave the surface: cancel the refresh that was asked for and drop the scene. -/
def detach (p : Player) (h : Host) : Player × Host :=
  ({ p with state := .idle, scene := none, queued := none, pending := none },
    match p.pending with
    | some handle => h.cancel handle
    | none => h)

/-! ### Ticks -/

/-- Show the queued scene, which starts from the beginning. -/
def takeQueued (p : Player) : Player :=
  match p.queued with
  | some scene => { p with scene, queued := none, rewinds := true }
  | none => p

/-- Start from the beginning if that was asked for. -/
def takeRewind (p : Player) : Player :=
  if p.rewinds then { p with elapsed := .zero, lastTick := none, rewinds := false } else p

/-- How far the clock has to move. -/
def deltaAt (p : Player) (now : Timestamp) : Duration :=
  match p.lastTick with
  | some last => now.deltaSince last p.maxFrameDelta
  | none => .zero

/-- A playback time folded into the loop of the scene. -/
def fold (p : Player) (elapsed : Duration) : Duration :=
  match p.scene with
  | some scene => scene.effectiveTime elapsed
  | none => elapsed

/-- Move the clock. -/
def advance (p : Player) (now : Timestamp) : Player :=
  let elapsed := if p.isPlaying then p.elapsed + p.deltaAt now else p.elapsed
  { p with lastTick := some now, elapsed := p.fold elapsed }

variable {σ : Type} [Surface σ]

/-- Paint the frame of the moment. -/
def paint (p : Player) (s : σ) : σ × Painted :=
  p.painter.paint p.scene p.elapsed (p.trace.map Trace.toText) s

/-- Take over what was asked for, move the clock and paint. -/
def tick (p : Player) (s : σ) (now : Timestamp) : Player × σ × TickReport :=
  if p.state = .idle then (p, s, ⟨.zero, p.elapsed, none⟩)
  else
    let ready := p.takeQueued.takeRewind
    let delta := ready.deltaAt now
    let p := ready.advance now
    let (s, painted) := p.paint s
    (p, s, ⟨delta, p.elapsed, some painted⟩)

/-- A refresh: a tick, and asking for the next refresh. -/
def onFrame (p : Player) (s : σ) (h : Host) (now : Timestamp) :
    Player × σ × Host × Except Fault TickReport :=
  let (p, s, report) := { p with pending := none }.tick s now
  match p.schedule h with
  | (p, h, none) => (p, s, h, .ok report)
  | (p, h, some fault) => (p, s, h, .error fault)

/-! ### The user -/

/-- Understand a payload and queue its scene, or none.  Also tells whether there is a scene. -/
def load (p : Player) (payload : Json) : Player × Bool :=
  let result := p.normalizer.normalize payload
  ({ p with trace := some result.trace, queued := some result.scene }, result.scene.isSome)

/-- Queue a scene, or none. -/
def enqueue (p : Player) (scene : Option Scene) : Player :=
  { p with queued := some scene }

/-- Start from the beginning at the next tick. -/
def rewind (p : Player) : Player :=
  { p with rewinds := true }

/-- Pause, or play on. -/
def toggle (p : Player) : Player :=
  { p with state := p.state.flip }

/-- Play, or pause. -/
def setPlaying (p : Player) (playing : Bool) : Player :=
  if p.state ≠ .idle ∧ p.isPlaying ≠ playing then p.toggle else p

/-- Paint in another theme. -/
def setTheme (p : Player) (theme : Theme) : Player :=
  { p with painter := p.painter.withTheme theme }

end Player

end SceneLoop
