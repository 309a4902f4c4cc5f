import SceneLoop.Proofs.Drawing.Recorded
import SceneLoop.Proofs.Playback.Clock

/-!
# Pausing

A player that is paused paints the same picture at every tick, for its time stands still.  When it
plays on, its time goes on from there: the last tick of the pause, not the first, is the moment from
which it counts.

## Main definitions

* `Player.IsFrozen` : paused players that nothing new is asked of.
* `Player.picture` : the operations of the frame that a player shows.

## Main results

* `Session.player_step_of_isFrozen`, `Session.player_run_of_isFrozen` : ticks change nothing but the
  moment of the last one.
* `Player.elapsed_ticked_resumed` : the first tick after the pause.
* `Session.pause_freezes` : pausing freezes the picture and costs no time.
-/

namespace SceneLoop

namespace Player

/-- A paused player whose time is folded into the loop of its scene, and that nothing new is asked
of. -/
structure IsFrozen (p : Player) : Prop where
  state : p.state = .paused
  queued : p.queued = none
  rewinds : p.rewinds = false
  fold_elapsed : p.fold p.elapsed = p.elapsed

/-- The operations of the frame that a player shows, on a surface of a size. -/
def picture (p : Player) (size : Size) : List Op :=
  p.painter.recorded p.scene p.elapsed (p.trace.map Trace.toText) size

variable {p : Player}

/-- Where nothing new is asked for, a tick takes nothing over. -/
theorem takeRewind_takeQueued_self (hqueued : p.queued = none) (hrewinds : p.rewinds = false) :
    p.takeQueued.takeRewind = p := by
  simp only [takeQueued, hqueued, takeRewind, hrewinds, Bool.false_eq_true, if_false]

/-- A tick of a frozen player changes nothing but the moment of the last tick. -/
theorem IsFrozen.moved (h : p.IsFrozen) (now : Timestamp) :
    p.moved now = { p with lastTick := some now } := by
  have hplaying : p.isPlaying = false := by
    rw [isPlaying, h.state]
    rfl
  rw [Player.moved, takeRewind_takeQueued_self h.queued h.rewinds]
  simp only [advance, hplaying, Bool.false_eq_true, if_false, h.fold_elapsed]

theorem IsFrozen.active (h : p.IsFrozen) : p.state ≠ .idle := by
  rw [h.state]
  decide

theorem IsFrozen.ticked (h : p.IsFrozen) (now : Timestamp) :
    p.ticked now = { p with lastTick := some now } := by
  rw [Player.ticked, if_neg h.active, h.moved now]

/-- A frozen player stays frozen, whenever its last tick was and whatever refresh it holds. -/
theorem IsFrozen.since (h : p.IsFrozen) (lastTick : Option Timestamp) (pending : Option Handle) :
    IsFrozen { p with lastTick, pending } :=
  ⟨h.state, h.queued, h.rewinds, h.fold_elapsed⟩

/-- A tick of a frozen player adds its picture to a recording. -/
theorem IsFrozen.adds_tick (h : p.IsFrozen) (r : Recording) (now : Timestamp) :
    Recording.Adds (p.picture r.size) r (p.tick r now).2.1 := by
  rw [tick_of_active h.active, h.moved now]
  exact Recording.adds_paint p.painter p.scene p.elapsed _ r

/-- Playing on changes nothing else. -/
theorem control_resume (hstate : p.state = .paused) {resume : Control}
    (hresume : resume ∈ [.toggle, .setPlaying true]) :
    p.control resume = { p with state := .running } := by
  obtain ⟨state, elapsed, lastTick⟩ := p
  obtain rfl : state = .paused := hstate
  obtain rfl | rfl : resume = .toggle ∨ resume = .setPlaying true := by simpa using hresume
  · rfl
  · rfl

/-- The first tick of a player that plays on counts from the last tick before. -/
theorem elapsed_ticked_resumed (hstate : p.state = .running) (hqueued : p.queued = none)
    (hrewinds : p.rewinds = false) {last : Timestamp} (hlast : p.lastTick = some last)
    (now : Timestamp) :
    (p.ticked now).elapsed = p.fold (p.elapsed + now.deltaSince last p.maxFrameDelta) := by
  have hactive : p.state ≠ .idle := by
    rw [hstate]
    decide
  have hplaying : p.isPlaying = true := by
    rw [isPlaying, hstate]
    rfl
  rw [Player.ticked, if_neg hactive, Player.moved, takeRewind_takeQueued_self hqueued hrewinds]
  simp only [advance, hplaying, if_true, deltaAt, hlast]

end Player

namespace Session

variable {σ τ : Type} [Surface σ] [Surface τ]

/-- Whether all events are ticks, by themselves or in refreshes. -/
def AreTicks (es : List (Event σ)) : Prop :=
  ∀ e ∈ es, e.tickAt?.isSome

/-- A tick of a frozen player changes nothing but the moment of the last tick and the refresh that
is asked for. -/
theorem player_step_of_isFrozen {S : Session} (h : S.player.IsFrozen) {e : Event σ}
    {now : Timestamp} (he : e.tickAt? = some now) :
    ∃ pending, (S.step e).1.player = { S.player with lastTick := some now, pending } := by
  obtain ⟨pending, hplayer⟩ := S.player_step_of_tickAt? he
  rw [hplayer, h.ticked now]
  exact ⟨pending, rfl⟩

/-- Neither do many ticks. -/
theorem player_run_of_isFrozen {S : Session} (h : S.player.IsFrozen) {es : List (Event σ)}
    (hes : AreTicks es) :
    ∃ lastTick pending, (S.run es).player = { S.player with lastTick, pending } := by
  induction es generalizing S with
  | nil => exact ⟨S.player.lastTick, S.player.pending, rfl⟩
  | cons e es ih =>
    obtain ⟨htick, hticks⟩ := List.forall_mem_cons.1 hes
    obtain ⟨now, he⟩ := Option.isSome_iff_exists.1 htick
    obtain ⟨pending, hplayer⟩ := player_step_of_isFrozen h he
    obtain ⟨lastTick, pending, hrun⟩ := ih (hplayer ▸ h.since (some now) pending) hticks
    rw [hplayer] at hrun
    exact ⟨lastTick, pending, hrun⟩

/-- A player that plays on after a tick counts from this tick. -/
theorem elapsed_run_resumed {S : Session} (h : S.player.IsFrozen) {e next : Event σ}
    {last now : Timestamp} (he : e.tickAt? = some last) (hnext : next.tickAt? = some now)
    {resume : Control} (hresume : resume ∈ [.toggle, .setPlaying true]) :
    (S.run [e, .control resume, next]).player.elapsed =
      S.player.fold (S.player.elapsed + now.deltaSince last S.player.maxFrameDelta) := by
  obtain ⟨pending, hlast⟩ := player_step_of_isFrozen h he
  have hpaused := h.since (some last) pending
  rw [← hlast] at hpaused
  have hresumed : (S.run [e, .control resume]).player =
      { (S.step e).1.player with state := .running } :=
    Player.control_resume hpaused.state hresume
  obtain ⟨pending', hplayer⟩ := (S.run [e, .control resume]).player_step_of_tickAt? hnext
  change ((S.run [e, .control resume]).step next).1.player.elapsed = _
  rw [hplayer, hresumed, hlast]
  exact Player.elapsed_ticked_resumed
    (p := { S.player with state := .running, lastTick := some last, pending })
    rfl h.queued h.rewinds rfl now

/-- **Pausing freezes the picture and costs no time.** Take a player that is paused after any
settings, host and events, and that neither a new scene nor a start from the beginning is asked of.
Ticks, by themselves or in refreshes and at whatever moments, leave its time as it is, and all of
them add the same picture to what is recorded.  When it then plays on, its time goes on from there
at the next tick, by the advance since the last tick of the pause. -/
theorem pause_freezes (s : Settings) (answer : Nat → Except Fault Handle) (es : List (Event σ)) :
    let S := (start s answer).run es
    S.player.state = .paused → S.player.queued = none → S.player.rewinds = false →
      (∀ ticks : List (Event τ), AreTicks ticks →
        (S.run ticks).player.elapsed = S.player.elapsed) ∧
      (∀ ticks : List (Event Recording), AreTicks ticks →
        ∀ e : Event Recording, e.tickAt?.isSome → ∀ r, e.surface? = some r →
          ∃ painted, ((S.run ticks).step e).2 = some painted ∧
            painted.ops.toList = r.ops.toList ++ S.player.picture r.size) ∧
      ∀ (ticks : List (Event τ)) (e next : Event τ) (last now : Timestamp), AreTicks ticks →
        e.tickAt? = some last → next.tickAt? = some now →
          ∀ resume ∈ [Control.toggle, .setPlaying true],
            (S.run (ticks ++ [e, .control resume, next])).player.elapsed =
              S.player.fold
                (S.player.elapsed + now.deltaSince last s.playback.maxFrameDelta) := by
  intro S hstate hqueued hrewinds
  have hclock : S.player.IsOnTime s.playback.maxFrameDelta := isOnTime_run s answer es
  have hfrozen : S.player.IsFrozen := ⟨hstate, hqueued, hrewinds, hclock.fold_elapsed⟩
  refine ⟨fun ticks hticks => ?_, fun ticks hticks e he r hr => ?_,
    fun ticks e next last now hticks he hnext resume hresume => ?_⟩
  · obtain ⟨_, _, hplayer⟩ := player_run_of_isFrozen hfrozen hticks
    rw [hplayer]
  · obtain ⟨lastTick, pending, hplayer⟩ := player_run_of_isFrozen hfrozen hticks
    obtain ⟨now, he⟩ := Option.isSome_iff_exists.1 he
    obtain ⟨pending, hsurface⟩ := (S.run ticks).surface_step_of_tickAt? he hr
    rw [hplayer] at hsurface
    exact ⟨_, hsurface, ((hfrozen.since lastTick pending).adds_tick r now).ops⟩
  · obtain ⟨lastTick, pending, hplayer⟩ := player_run_of_isFrozen hfrozen hticks
    have hpaused := hfrozen.since lastTick pending
    rw [← hplayer] at hpaused
    rw [run_append, elapsed_run_resumed hpaused he hnext hresume, hplayer, ← hclock.maxFrameDelta]
    rfl

/-- A player that is paused on the way through its scene. -/
def halfway : List (Event Recording) :=
  [.attach, .control (.enqueue (some blank)), .tick .sheet ⟨0⟩, .refresh 1 .sheet ⟨50⟩,
    .control .toggle]

/-- However long such a player is paused, only what comes after the last tick counts. -/
theorem pause_freezes_halfway :
    ∃ S, S = (start default (Host.counting fun _ => false).answer).run halfway ∧
      S.player.state = .paused ∧ S.player.queued = none ∧ S.player.rewinds = false ∧
      (S.run [.tick Recording.sheet ⟨7000⟩, .refresh 2 .sheet ⟨90000⟩]).player.elapsed =
        S.player.elapsed ∧
      (S.run [.tick Recording.sheet ⟨7000⟩, .refresh 2 .sheet ⟨90000⟩, .control .toggle,
        .refresh 3 .sheet ⟨90030⟩]).player.elapsed =
          S.player.fold (S.player.elapsed + Timestamp.deltaSince ⟨90030⟩ ⟨90000⟩ 100) := by
  obtain ⟨helapsed, -, hresumed⟩ := pause_freezes (τ := Recording) default
    (Host.counting fun _ => false).answer halfway (by decide +kernel) rfl (by decide +kernel)
  refine ⟨_, rfl, by decide +kernel, rfl, by decide +kernel, helapsed _ ?_, ?_⟩
  · simp [AreTicks, Event.tickAt?]
  · exact hresumed [.tick .sheet ⟨7000⟩] (.refresh 2 .sheet ⟨90000⟩) (.refresh 3 .sheet ⟨90030⟩)
      ⟨90000⟩ ⟨90030⟩ (by simp [AreTicks, Event.tickAt?]) rfl rfl .toggle (by simp)

end Session

end SceneLoop
