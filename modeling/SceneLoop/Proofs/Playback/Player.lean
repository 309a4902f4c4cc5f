import SceneLoop.Playback.Player

/-!
# What a tick does

A tick of a player with a surface takes over what was asked for, moves the clock and paints the
player that comes of it.  A refresh is a tick after which the next refresh is asked for.

## Main definitions

* `Player.upcoming` : the scene that the next tick shows.
* `Player.restarts` : whether the next tick starts from the beginning.
* `Player.moved`, `Player.ticked` : the player after a tick, whatever it paints on.

## Main results

* `Player.takeRewind_takeQueued` : what a tick takes over.
* `Player.tick_of_active` : a tick of a player with a surface.
* `Player.moved_eq`, `Player.ticked_eq` : what a tick leaves of the player.
* `Player.schedule_eq` : asking for a refresh changes nothing else of the player.
* `Player.attach_eq` : what a new surface changes.
* `Player.onFrame_eq` : what a refresh does.
-/

namespace SceneLoop

namespace Player

/-- The scene that the next tick shows, or none. -/
def upcoming (p : Player) : Option Scene :=
  p.queued.getD p.scene

/-- Whether the next tick starts from the beginning. -/
def restarts (p : Player) : Bool :=
  p.queued.isSome || p.rewinds

/-- The player after a tick: it has taken over what was asked for, and its clock has moved. -/
def moved (p : Player) (now : Timestamp) : Player :=
  p.takeQueued.takeRewind.advance now

/-- The player after a tick, be it on a surface or not. -/
def ticked (p : Player) (now : Timestamp) : Player :=
  if p.state = .idle then p else p.moved now

/-- What a tick takes over before it moves the clock. -/
theorem takeRewind_takeQueued (p : Player) :
    p.takeQueued.takeRewind = { p with
      elapsed := if p.restarts then .zero else p.elapsed
      lastTick := if p.restarts then none else p.lastTick
      scene := p.upcoming
      queued := none
      rewinds := false } := by
  obtain ⟨state, elapsed, lastTick, scene, trace, queued, rewinds⟩ := p
  cases queued <;> cases rewinds <;> rfl

/-- What a tick leaves of the player: only its scene, its clock and what was asked for change. -/
theorem moved_eq (p : Player) (now : Timestamp) :
    ∃ elapsed, p.moved now = { p with
      elapsed, lastTick := some now, scene := p.upcoming, queued := none, rewinds := false } := by
  rw [moved, takeRewind_takeQueued]
  exact ⟨_, rfl⟩

variable {σ : Type} [Surface σ]

theorem tick_of_idle {p : Player} (h : p.state = .idle) (s : σ) (now : Timestamp) :
    p.tick s now = (p, s, ⟨.zero, p.elapsed, none⟩) := by
  rw [tick, if_pos h]

/-- A tick of a player with a surface. -/
theorem tick_of_active {p : Player} (h : p.state ≠ .idle) (s : σ) (now : Timestamp) :
    p.tick s now = (p.moved now, ((p.moved now).paint s).1,
      ⟨p.takeQueued.takeRewind.deltaAt now, (p.moved now).elapsed,
        some ((p.moved now).paint s).2⟩) := by
  rw [tick, if_neg h]
  rfl

/-- A tick looks at nothing else than what it takes over. -/
theorem tick_congr {p q : Player} (hp : p.state ≠ .idle)
    (h : p.takeQueued.takeRewind = q.takeQueued.takeRewind) (s : σ) (now : Timestamp) :
    p.tick s now = q.tick s now := by
  have hstate : p.state = q.state := by
    have hstate := congrArg Player.state h
    rwa [takeRewind_takeQueued, takeRewind_takeQueued] at hstate
  rw [tick_of_active hp, tick_of_active (hstate ▸ hp)]
  simp only [moved, h]

/-- A tick neither looks at the refresh that was asked for nor forgets it. -/
theorem takeRewind_takeQueued_pending (p : Player) (pending : Option Handle) :
    takeRewind (takeQueued { p with pending }) = { p.takeQueued.takeRewind with pending } := by
  rw [takeRewind_takeQueued, takeRewind_takeQueued]
  rfl

theorem moved_pending (p : Player) (pending : Option Handle) (now : Timestamp) :
    moved { p with pending } now = { p.moved now with pending } := by
  rw [moved, takeRewind_takeQueued_pending]
  rfl

/-- The player after a tick does not depend on what it paints on. -/
theorem fst_tick (p : Player) (s : σ) (now : Timestamp) : (p.tick s now).1 = p.ticked now := by
  rw [ticked]
  split
  · next h => rw [tick_of_idle h]
  · next h => rw [tick_of_active h]

theorem ticked_pending (p : Player) (pending : Option Handle) (now : Timestamp) :
    ticked { p with pending } now = { p.ticked now with pending } := by
  simp only [ticked, moved_pending]
  split <;> rfl

/-- A tick changes the clock, the scene and what waits for the tick. -/
theorem ticked_eq (p : Player) (now : Timestamp) :
    ∃ elapsed lastTick scene queued rewinds,
      p.ticked now = { p with elapsed, lastTick, scene, queued, rewinds } := by
  rw [ticked]
  split
  · exact ⟨_, _, _, _, _, rfl⟩
  · obtain ⟨elapsed, hmoved⟩ := p.moved_eq now
    exact ⟨elapsed, _, _, _, _, hmoved⟩

/-! ### Refreshes -/

/-- Asking for a refresh changes nothing else of the player. -/
theorem schedule_eq (p : Player) (h : Host) : ∃ pending, (p.schedule h).1 = { p with pending } := by
  rw [schedule]
  split
  · exact ⟨p.pending, rfl⟩
  · split
    · exact ⟨_, rfl⟩
    · exact ⟨p.pending, rfl⟩

/-- A new surface makes the player play or pause, and the clock starts at the next tick. -/
theorem attach_eq (p : Player) (h : Host) :
    ∃ state pending, state ≠ .idle ∧
      (p.attach h).1 = { p with state, lastTick := none, pending } := by
  obtain ⟨pending, hschedule⟩ :=
    { p with state := if p.autoplay then .running else .paused, lastTick := none }.schedule_eq h
  refine ⟨_, pending, ?_, hschedule⟩
  split <;> simp

theorem schedule_of_active {p : Player} (h : p.state ≠ .idle) (hpending : p.pending = none)
    {host : Host} {handle : Handle} (hanswer : host.answer (host.requests + 1) = .ok handle) :
    p.schedule host = ({ p with pending := some handle },
      { host with requests := host.requests + 1, live := handle :: host.live }, none) := by
  simp only [schedule, h, hpending, Host.request, hanswer]
  rfl

/-- A refresh is a tick after which the next refresh is asked for. -/
theorem onFrame_eq (p : Player) (s : σ) (h : Host) (now : Timestamp) :
    p.onFrame s h now =
      (({ p.ticked now with pending := none }.schedule h).1,
        ({ p with pending := none }.tick s now).2.1,
        ({ p.ticked now with pending := none }.schedule h).2.1,
        match ({ p.ticked now with pending := none }.schedule h).2.2 with
        | none => .ok ({ p with pending := none }.tick s now).2.2
        | some fault => .error fault) := by
  have hplayer :
      ({ p with pending := none }.tick s now).1 = { p.ticked now with pending := none } :=
    (fst_tick _ s now).trans (p.ticked_pending none now)
  simp only [onFrame, hplayer]
  split <;> simp_all

/-- A refresh of a player with a surface, whose next request is answered. -/
theorem onFrame_of_active {p : Player} (h : p.state ≠ .idle) (s : σ) {host : Host}
    {handle : Handle} (hanswer : host.answer (host.requests + 1) = .ok handle)
    (now : Timestamp) :
    p.onFrame s host now = ({ p.moved now with pending := some handle },
      ((p.moved now).paint s).1,
      { host with requests := host.requests + 1, live := handle :: host.live },
      .ok ⟨p.takeQueued.takeRewind.deltaAt now, (p.moved now).elapsed,
        some ((p.moved now).paint s).2⟩) := by
  have hticked : p.ticked now = p.moved now := if_neg h
  have hactive : (p.moved now).state ≠ .idle := by
    obtain ⟨elapsed, hmoved⟩ := p.moved_eq now
    rw [hmoved]
    exact h
  have hschedule := schedule_of_active (p := { p.moved now with pending := none }) hactive rfl
    hanswer
  have htick := tick_of_active (p := { p with pending := none }) h s now
  rw [moved_pending, takeRewind_takeQueued_pending] at htick
  rw [onFrame_eq, hticked, hschedule, htick]
  rfl

end Player

end SceneLoop
