import SceneLoop.Proofs.Playback.Loop
import SceneLoop.Proofs.Playback.Session

/-!
# The clock of a player

Whatever moments a host reports, and whatever is asked of a player, its time is finite, not negative
and folded into the loop of the scene that it shows.

## Main definitions

* `Player.IsOnTime` : players whose time is in range.

## Main results

* `Session.isOnTime_step` : every event keeps the time in range.
* `Player.delta_tick_le` : the advance of one tick is at most what is set.
* `Painter.paint_effectiveTime` : a scene is painted alike at a time and at the time in its loop.
* `Session.clock_in_range` : the clock stays in range in every session.
-/

namespace SceneLoop

/-- Folding into the loop of a scene is idempotent. -/
theorem Scene.effectiveTime_effectiveTime (scene : Scene) (d : Duration) :
    scene.effectiveTime (scene.effectiveTime d) = scene.effectiveTime d :=
  d.wrap_wrap scene.period

namespace Player

variable {p : Player} {limit : Float}

/-- A player whose time is in range. -/
structure IsOnTime (limit : Float) (p : Player) : Prop where
  /-- Its time is finite and not negative. -/
  isProper : p.elapsed.IsProper
  /-- Its time is folded into the loop of its scene. -/
  fold_elapsed : p.fold p.elapsed = p.elapsed
  /-- It moves its clock by no more than what was set. -/
  maxFrameDelta : p.maxFrameDelta = limit

/-! ### Folding into the loop of the scene -/

theorem fold_fold (p : Player) (d : Duration) : p.fold (p.fold d) = p.fold d := by
  cases h : p.scene with
  | none => simp only [fold, h]
  | some scene =>
    simp only [fold, h]
    exact scene.effectiveTime_effectiveTime d

theorem isProper_fold (p : Player) {d : Duration} (h : d.IsProper) : (p.fold d).IsProper := by
  rw [fold]
  split
  · exact h.wrap
  · exact h

/-- The time of a player is at most the period of its scene. -/
theorem IsOnTime.elapsed_le (h : p.IsOnTime limit) {scene : Scene} (hscene : p.scene = some scene) :
    p.elapsed.millis ≤ scene.period.toFloat ∧ scene.effectiveTime p.elapsed = p.elapsed := by
  have hfold : scene.effectiveTime p.elapsed = p.elapsed := by
    simpa only [fold, hscene] using h.fold_elapsed
  have hle := Duration.wrap_le scene.period_ne_zero (Binary64.isNaN_of_isFinite h.isProper.isFinite)
  rw [← Scene.effectiveTime, hfold] at hle
  exact ⟨hle, hfold⟩

/-! ### What changes the clock -/

theorem isOnTime_ofSettings (s : Settings) :
    (ofSettings s).IsOnTime s.playback.maxFrameDelta :=
  ⟨Duration.isProper_zero, rfl, rfl⟩

theorem IsOnTime.control (h : p.IsOnTime limit) (c : Control) : (p.control c).IsOnTime limit := by
  rw [control_eq]
  exact ⟨h.isProper, h.fold_elapsed, h.maxFrameDelta⟩

/-- What a tick takes over before it moves the clock keeps a proper time, but the scene changes, so
that the time need not be folded yet. -/
theorem IsOnTime.isProper_ready (h : p.IsOnTime limit) :
    p.takeQueued.takeRewind.elapsed.IsProper := by
  rw [takeRewind_takeQueued]
  change Duration.IsProper (if p.restarts then .zero else p.elapsed)
  split
  · exact Duration.isProper_zero
  · exact h.isProper

theorem IsOnTime.moved (h : p.IsOnTime limit) (now : Timestamp) :
    (p.moved now).IsOnTime limit := by
  have hready := h.isProper_ready
  have hlimit : p.takeQueued.takeRewind.maxFrameDelta = limit := by
    rw [takeRewind_takeQueued]
    exact h.maxFrameDelta
  rw [Player.moved]
  generalize p.takeQueued.takeRewind = ready at hready hlimit
  refine ⟨isProper_fold _ ?_, ready.fold_fold _, hlimit⟩
  split
  · exact Duration.isProper_add _ _
  · exact hready

theorem IsOnTime.ticked (h : p.IsOnTime limit) (now : Timestamp) :
    (p.ticked now).IsOnTime limit := by
  rw [Player.ticked]
  split
  · exact h
  · exact h.moved now

/-- The advance of the clock in one tick is at most what is set. -/
theorem delta_tick_le {σ : Type} [Surface σ] (p : Player) (s : σ) (now : Timestamp) :
    let delta := (p.tick s now).2.2.delta
    delta.IsProper ∧ delta.millis ≤ Binary64.larger p.maxFrameDelta 0 := by
  have hzero := Binary64.zero_le_larger p.maxFrameDelta
  by_cases hidle : p.state = .idle
  · rw [tick_of_idle hidle]
    exact ⟨Duration.isProper_zero, hzero⟩
  · have hlimit : p.takeQueued.takeRewind.maxFrameDelta = p.maxFrameDelta := by
      rw [takeRewind_takeQueued]
    rw [tick_of_active hidle, ← hlimit]
    rw [← hlimit] at hzero
    generalize p.takeQueued.takeRewind = ready at hzero
    simp only [deltaAt]
    split
    · exact ⟨now.isProper_deltaSince _ _, now.deltaSince_le _ _⟩
    · exact ⟨Duration.isProper_zero, hzero⟩

end Player

/-! ### Painting in a loop -/

/-- A scene that is shown as such is painted alike at a time and at the time in its loop. -/
theorem Painter.paint_effectiveTime {σ : Type} [Surface σ] (p : Painter) {scene : Scene}
    (h : p.showsDemo (some scene) = false) (elapsed : Duration) (trace : Option String) (s : σ) :
    p.paint (some scene) (scene.effectiveTime elapsed) trace s =
      p.paint (some scene) elapsed trace s := by
  have hshown : p.shown? (some scene) = some scene := by
    rw [shown?, h]
    rfl
  simp only [paint, hshown, scene.effectiveTime_effectiveTime]

/-! ### Sessions -/

namespace Session

variable {σ : Type} [Surface σ] {limit : Float}

/-- Every event keeps the time of the player in range. -/
theorem isOnTime_step {S : Session} (h : S.player.IsOnTime limit) (e : Event σ) :
    (S.step e).1.player.IsOnTime limit := by
  cases e with
  | attach =>
    obtain ⟨_, _, -, hattach⟩ := S.player.attach_eq S.host
    simp only [step, hostAt, hattach]
    exact ⟨h.isProper, h.fold_elapsed, h.maxFrameDelta⟩
  | detach => exact ⟨h.isProper, rfl, h.maxFrameDelta⟩
  | control c => exact h.control c
  | tick s now =>
    simp only [step, Player.fst_tick]
    exact h.ticked now
  | refresh handle s now =>
    obtain ⟨pending, hplayer⟩ := S.player_step_of_tickAt? (e := .refresh handle s now) rfl
    have hticked := h.ticked now
    rw [hplayer]
    exact ⟨hticked.isProper, hticked.fold_elapsed, hticked.maxFrameDelta⟩

/-- After any events the time of the player is in range. -/
theorem isOnTime_run (s : Settings) (answer : Nat → Except Fault Handle) (es : List (Event σ)) :
    ((start s answer).run es).player.IsOnTime s.playback.maxFrameDelta := by
  have hstart : (start s answer).player.IsOnTime s.playback.maxFrameDelta :=
    Player.isOnTime_ofSettings s
  generalize start s answer = S at hstart
  induction es generalizing S with
  | nil => exact hstart
  | cons e es ih => exact ih _ (isOnTime_step hstart e)

/-- **The clock stays in range.** Take any settings, any host and any events, with whatever moments.
After them the time of the player is finite and not negative, and while the player has a scene, its
time is at most the period and folded into the loop; the advance of any tick that comes next, be it
by itself or in a refresh, is between zero and the most that is set.  Folding is idempotent, so a
scene that is shown as such is painted alike at a time and at the time in its loop. -/
theorem clock_in_range :
    (∀ (s : Settings) (answer : Nat → Except Fault Handle) (es : List (Event σ)),
      let p := ((start s answer).run es).player
      p.elapsed.IsProper ∧
        (∀ scene, p.scene = some scene →
          p.elapsed.millis ≤ scene.period.toFloat ∧ scene.effectiveTime p.elapsed = p.elapsed) ∧
        ∀ pending (surface : σ) now,
          let delta := (Player.tick { p with pending } surface now).2.2.delta
          0 ≤ delta.millis ∧ delta.millis ≤ Binary64.larger s.playback.maxFrameDelta 0) ∧
    (∀ (d : Duration) period, (d.wrap period).wrap period = d.wrap period) ∧
    ∀ (painter : Painter) scene elapsed trace (surface : σ),
      painter.showsDemo (some scene) = false →
        painter.paint (some scene) (scene.effectiveTime elapsed) trace surface =
          painter.paint (some scene) elapsed trace surface := by
  refine ⟨fun s answer es => ?_, Duration.wrap_wrap, fun painter scene elapsed trace surface h =>
    painter.paint_effectiveTime h elapsed trace surface⟩
  have hclock := isOnTime_run (σ := σ) s answer es
  refine ⟨hclock.isProper, fun scene hscene => hclock.elapsed_le hscene,
    fun pending surface now => ?_⟩
  obtain ⟨hproper, hle⟩ := Player.delta_tick_le
    { ((start s answer).run es).player with pending } surface now
  exact ⟨hproper.zero_le, hclock.maxFrameDelta ▸ hle⟩

/-- A scene that shows nothing. -/
def blank : Scene :=
  .ofLayers 5000 []

/-- Settings with a clock that moves by any amount. -/
def unbounded : Settings :=
  { playback := { maxFrameDelta := 1 / 0 } }

/-- A host that reports moments far ahead, far back and none at all. -/
def erratic : List (Event Recording) :=
  [.attach, .control (.enqueue (some blank)), .tick .sheet ⟨20⟩, .tick .sheet ⟨1e9⟩,
    .refresh 1 .sheet ⟨0 / 0⟩, .tick .sheet ⟨-1 / 0⟩, .tick .sheet ⟨0⟩, .refresh 2 .sheet ⟨7000⟩]

/-- A player with such settings and such a host is in the loop of its scene. -/
theorem clock_in_range_erratic :
    ∃ p, p = ((start unbounded (Host.counting fun _ => false).answer).run erratic).player ∧
      p.scene = some blank ∧ p.elapsed.IsProper ∧
      p.elapsed.millis ≤ blank.period.toFloat ∧ blank.effectiveTime p.elapsed = p.elapsed ∧
      p.painter.paint (some blank) (blank.effectiveTime (.ofMillis 7000)) none Recording.sheet =
        p.painter.paint (some blank) (.ofMillis 7000) none Recording.sheet := by
  obtain ⟨hclock, -, hpaint⟩ := clock_in_range (σ := Recording)
  obtain ⟨hproper, hfolded, -⟩ := hclock unbounded (Host.counting fun _ => false).answer erratic
  obtain ⟨hle, hfold⟩ := hfolded blank rfl
  exact ⟨_, rfl, rfl, hproper, hle, hfold, hpaint _ _ _ _ _ rfl⟩

end Session

/-- The demo that is shown for a scene without layers does not follow the loop of the scene. -/
theorem Painter.paint_effectiveTime_ne :
    let p := ofSettings { playback := { demoWhenEmpty := true } }
    p.paint (some Session.blank) (Session.blank.effectiveTime (.ofMillis 7000)) none
        Recording.sheet ≠
      p.paint (some Session.blank) (.ofMillis 7000) none Recording.sheet := by
  intro p h
  have hdisc (t : Duration) : (p.paint (some Session.blank) t none Recording.sheet).1.ops[3]? =
      let center := p.demo.discCenter Recording.sheet.size t
      some (.arc center.x center.y (Binary64.larger p.demo.radius 0) 0 Binary64.fullTurn) := by
    rfl
  have hsame := congrArg (fun painted => painted.1.ops[3]?) h
  rw [hdisc, hdisc] at hsame
  have hcenter := (Op.arc.inj (Option.some.inj hsame)).1
  revert hcenter
  decide +kernel

end SceneLoop
