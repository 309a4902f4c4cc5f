import SceneLoop.Proofs.Playback.Session
import SceneLoop.Scene.Builder

/-!
# What a player says of its surface

A tick reports what it painted, and the status of a player tells of its scene.  Both agree from one
tick to the next: what a user asks for in between waits for the next tick, and another surface
changes neither the scene nor the clock.  So the status tells of the frame that is on the surface.

## Main definitions

* `Player.ShowsSame` : players with the same status, but for whether they play.
* `Session.report?` : the report of the tick in an event.

## Main results

* `Painter.snd_paint_eq_demo_iff` : when the demo is painted.
* `Session.active_run` : a player stays on its surface unless it leaves it.
* `Session.showsSame_step`, `Session.showsSame_run` : what changes nothing that is shown.
* `Session.report?_of_onFrame_ok` : what a refresh returns is the report of its tick.
* `Session.status_describes_frame` : the status tells of the last frame.
-/

namespace SceneLoop

/-- Players that show the same scene at the same playback time, and the demo for the same scenes. -/
structure Player.ShowsSame (p q : Player) : Prop where
  scene : p.scene = q.scene
  elapsed : p.elapsed = q.elapsed
  demoWhenEmpty : p.painter.demoWhenEmpty = q.painter.demoWhenEmpty

namespace Player.ShowsSame

variable {p q r : Player}

theorem refl (p : Player) : p.ShowsSame p :=
  ⟨rfl, rfl, rfl⟩

theorem trans (h : p.ShowsSame q) (h' : q.ShowsSame r) : p.ShowsSame r :=
  ⟨h.scene.trans h'.scene, h.elapsed.trans h'.elapsed, h.demoWhenEmpty.trans h'.demoWhenEmpty⟩

theorem usesDemo (h : p.ShowsSame q) : p.usesDemo = q.usesDemo := by
  rw [Player.usesDemo, Player.usesDemo, h.scene]
  cases q.scene with
  | none => rfl
  | some scene => simp only [Painter.showsDemo, h.demoWhenEmpty]

end Player.ShowsSame

variable {σ : Type} [Surface σ]

/-! ### Painting -/

/-- The demo is painted if and only if it is to be shown. -/
theorem Painter.snd_paint_eq_demo_iff (p : Painter) (scene : Option Scene) (elapsed : Duration)
    (trace : Option String) (s : σ) :
    (p.paint scene elapsed trace s).2 = .demo ↔ p.showsDemo scene := by
  cases hdemo : p.showsDemo scene with
  | true => simp [paint, shown?, hdemo]
  | false =>
    cases scene with
    | none => cases hdemo
    | some scene => simp [paint, shown?, hdemo]

omit [Surface σ] in
theorem Event.exists_tickAt? {e : Event σ} {s : σ} (hs : e.surface? = some s) :
    ∃ now, e.tickAt? = some now := by
  cases e with
  | attach | detach | control => cases hs
  | tick _ now | refresh _ _ now => exact ⟨now, rfl⟩

namespace Session

/-- The report of the tick in an event.  A refresh returns it if the next request is answered. -/
def report? (S : Session) : Event σ → Option TickReport
  | .tick surface now => some (S.player.tick surface now).2.2
  | .refresh _ surface now => some ({ S.player with pending := none }.tick surface now).2.2
  | _ => none

/-- A refresh that returns a report returns that of its tick. -/
theorem report?_of_onFrame_ok (S : Session) {handle : Handle} {s : σ} {now : Timestamp}
    {report : TickReport}
    (h : (S.player.onFrame s (S.hostAt (.refresh handle s now)) now).2.2.2 = .ok report) :
    S.report? (.refresh handle s now) = some report := by
  rw [Player.onFrame_eq] at h
  split at h
  · cases h
    rfl
  · cases h

/-! ### One event -/

theorem active_attach (S : Session) : (S.step (.attach : Event σ)).1.player.state ≠ .idle := by
  obtain ⟨_, _, hstate, hattach⟩ := S.player.attach_eq S.host
  simp only [step, hostAt, hattach]
  exact hstate

/-- A player stays on its surface unless it leaves it. -/
theorem active_step {S : Session} (h : S.player.state ≠ .idle) {e : Event σ} (he : e ≠ .detach) :
    (S.step e).1.player.state ≠ .idle := by
  have htick {now : Timestamp} (htickAt : e.tickAt? = some now) :
      (S.step e).1.player.state ≠ .idle := by
    obtain ⟨pending, hplayer⟩ := S.player_step_of_tickAt? htickAt
    obtain ⟨_, _, _, _, _, hticked⟩ := S.player.ticked_eq now
    rw [hplayer, hticked]
    exact h
  cases e with
  | attach => exact S.active_attach
  | detach => exact absurd rfl he
  | control c =>
    simp only [step, Player.control_eq]
    exact fun hidle => h ((c.playState_eq_idle_iff _).1 hidle)
  | tick | refresh => exact htick rfl

/-- An event that neither paints nor takes the player off its surface changes nothing that is
shown. -/
theorem showsSame_step (S : Session) {e : Event σ} (he : e ≠ .detach) (hs : e.surface? = none) :
    (S.step e).1.player.ShowsSame S.player := by
  cases e with
  | attach =>
    obtain ⟨_, _, -, hattach⟩ := S.player.attach_eq S.host
    simp only [step, hostAt, hattach]
    exact ⟨rfl, rfl, rfl⟩
  | detach => exact absurd rfl he
  | control c =>
    simp only [step, Player.control_eq]
    exact ⟨rfl, rfl, rfl⟩
  | tick | refresh => cases hs

section Tick

variable {S : Session} {e : Event σ} {s : σ} {now : Timestamp}

/-- A tick leaves what it painted with. -/
theorem showsSame_step_of_tickAt? (h : S.player.state ≠ .idle) (he : e.tickAt? = some now) :
    (S.step e).1.player.ShowsSame (S.player.moved now) := by
  obtain ⟨pending, hplayer⟩ := S.player_step_of_tickAt? he
  rw [hplayer, Player.ticked, if_neg h]
  exact ⟨rfl, rfl, rfl⟩

/-- The frame that a tick paints is that of the player it leaves. -/
theorem surface_step_of_active (h : S.player.state ≠ .idle) (he : e.tickAt? = some now)
    (hs : e.surface? = some s) : (S.step e).2 = some ((S.player.moved now).paint s).1 := by
  obtain ⟨pending, hsurface⟩ := S.surface_step_of_tickAt? he hs
  have hactive : { S.player with pending }.state ≠ .idle := h
  rw [hsurface, Player.tick_of_active hactive, Player.moved_pending]
  rfl

theorem report?_of_active (h : S.player.state ≠ .idle) (he : e.tickAt? = some now)
    (hs : e.surface? = some s) :
    S.report? e = some ⟨S.player.takeQueued.takeRewind.deltaAt now, (S.player.moved now).elapsed,
      some ((S.player.moved now).paint s).2⟩ := by
  cases e with
  | attach | detach | control => cases he
  | tick =>
    obtain ⟨rfl, rfl⟩ := And.intro (Option.some.inj he) (Option.some.inj hs)
    rw [report?, Player.tick_of_active h]
  | refresh =>
    obtain ⟨rfl, rfl⟩ := And.intro (Option.some.inj he) (Option.some.inj hs)
    have hactive : { S.player with pending := none }.state ≠ .idle := h
    rw [report?, Player.tick_of_active hactive, Player.moved_pending,
      Player.takeRewind_takeQueued_pending]
    rfl

end Tick

/-! ### Many events -/

theorem active_run {S : Session} (h : S.player.state ≠ .idle) {es : List (Event σ)}
    (hes : ∀ e ∈ es, e ≠ .detach) : (S.run es).player.state ≠ .idle := by
  induction es generalizing S with
  | nil => exact h
  | cons e es ih =>
    obtain ⟨he, hrest⟩ := List.forall_mem_cons.1 hes
    exact ih (active_step h he) hrest

theorem showsSame_run (S : Session) {es : List (Event σ)}
    (hes : ∀ e ∈ es, e ≠ .detach ∧ e.surface? = none) :
    (S.run es).player.ShowsSame S.player := by
  induction es generalizing S with
  | nil => exact .refl _
  | cons e es ih =>
    obtain ⟨⟨he, hs⟩, hrest⟩ := List.forall_mem_cons.1 hes
    exact (ih (S.step e).1 hrest).trans (S.showsSame_step he hs)

/-- **The status tells of the frame on the surface.** Take any player with any host, put it on a
surface, and let anything happen but that it leaves the surface.  Once it has painted, its scene is
the one that its last tick painted: the one that was queued for the tick, if one was.  Its playback
time is the one that the tick reported.  It says that it shows the demo if and only if the tick
painted the demo, whatever was asked for since. -/
theorem status_describes_frame (S : Session) {before after : List (Event σ)} {e : Event σ} {s : σ}
    (hstay : ∀ f ∈ before ++ e :: after, f ≠ .detach) (hs : e.surface? = some s)
    (hlast : ∀ f ∈ after, f.surface? = none) :
    let T := (S.step (.attach : Event σ)).1.run before
    let p := (T.run (e :: after)).player
    ∃ (report : TickReport) (painted : Painted) (frame : σ),
      T.report? e = some report ∧ report.painted = some painted ∧ (T.step e).2 = some frame ∧
      T.player.painter.paint p.scene report.elapsed (T.player.trace.map Trace.toText) s =
        (frame, painted) ∧
      p.scene = T.player.upcoming ∧ p.elapsed = report.elapsed ∧
      (p.usesDemo ↔ painted = .demo) ∧
      p.statusLine = "Status: " ++ (if painted = .demo then "Demo" else "Visualization") ++
        " | Playing: " ++ (if p.isPlaying then "Yes" else "No") := by
  intro T p
  obtain ⟨hbefore, hrest⟩ := List.forall_mem_append.1 hstay
  obtain ⟨-, hafter⟩ := List.forall_mem_cons.1 hrest
  obtain ⟨now, he⟩ := Event.exists_tickAt? hs
  have hactive : T.player.state ≠ .idle := active_run S.active_attach hbefore
  have hshows : p.ShowsSame (T.player.moved now) :=
    (showsSame_run (T.step e).1 fun f hf => ⟨hafter f hf, hlast f hf⟩).trans
      (showsSame_step_of_tickAt? hactive he)
  have hdemo : p.usesDemo ↔ ((T.player.moved now).paint s).2 = .demo := by
    rw [hshows.usesDemo, Player.paint, Painter.snd_paint_eq_demo_iff]
    rfl
  obtain ⟨elapsed, hmoved⟩ := T.player.moved_eq now
  refine ⟨_, _, _, report?_of_active hactive he hs, rfl, surface_step_of_active hactive he hs, ?_,
    ?_, hshows.elapsed, hdemo, ?_⟩
  · rw [hshows.scene, hmoved]
    rfl
  · rw [hshows.scene, hmoved]
  · simp only [Player.statusLine, hdemo]

/-- A call back for the first request. -/
def called : Event Recording :=
  .refresh 1 .sheet ⟨16⟩

/-- A user queues no scene, and asks for more. -/
def queued : List (Event Recording) :=
  [.control (.enqueue none), .control .rewind, .control (.setTheme .dark), .control .toggle]

/-- A player that has painted a scene still tells of it when no scene is queued. -/
theorem status_describes_frame_queued :
    ∃ T, T = ((start default (Host.counting fun _ => false).answer).step
        (.attach : Event Recording)).1.run
          [(.control (.enqueue (some .sample)) : Event Recording)] ∧
      ∃ p, p = (T.run (called :: queued)).player ∧
        (∃ report, T.report? called = some report ∧ report.painted = some (.scene ⟨3, 0⟩) ∧
          p.elapsed = report.elapsed) ∧
        p.scene = some .sample ∧ p.queued = some none ∧
          p.usesDemo = false ∧ p.statusLine = "Status: Visualization | Playing: No" := by
  have hstay : ∀ f ∈ [.control (.enqueue (some .sample))] ++ called :: queued, f ≠ .detach := by
    simp [queued, called]
  have hlast : ∀ f ∈ queued, f.surface? = none := by
    simp [queued, Event.surface?]
  obtain ⟨report, painted, frame, hreport, hreported, -, -, hscene, helapsed, hdemo, hstatus⟩ :=
    status_describes_frame (start default (Host.counting fun _ => false).answer) hstay rfl hlast
  have hpainted : painted = .scene ⟨3, 0⟩ := by
    have hsome := congrArg (Option.bind · TickReport.painted) hreport
    rw [Option.bind_some, hreported] at hsome
    exact Option.some.inj (hsome.symm.trans (by decide +kernel))
  rw [hpainted] at hreported hdemo hstatus
  refine ⟨_, rfl, _, rfl, ⟨report, hreport, hreported, helapsed⟩, hscene, rfl, ?_,
    hstatus.trans (by decide +kernel)⟩
  rw [Bool.eq_false_iff]
  intro h
  cases hdemo.1 h

end Session

end SceneLoop
