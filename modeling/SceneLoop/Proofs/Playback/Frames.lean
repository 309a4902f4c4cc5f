import SceneLoop.Playback.Reel
import SceneLoop.Proofs.Playback.Player
import SceneLoop.Proofs.Raster.Painting

/-!
# The ways to a frame agree

A frame may be rendered on a canvas of its own, as one of a sequence on one canvas, or as what a
player leaves on its canvas after a refresh.  The three give the same pixels for the same scene, the
same playback time and the same trace.

## Main definitions

* `Reel.shots` : some refreshes one after the other, each with the frame after it.
* `Reel.Plays` : a reel that plays what a payload was understood as.

## Main results

* `Pipeline.shotsOn_eq_map` : a sequence is rendered frame by frame.
* `Reel.Plays.next` : one refresh of a reel.
* `Pipeline.renderings_agree` : the three ways agree.
-/

namespace SceneLoop

namespace Pipeline

variable (p : Pipeline)

theorem isWhole_canvas : p.canvas.frame.IsWhole :=
  Frame.isWhole_solid _ _ _

/-- A frame that is painted on a used canvas is the one on a canvas of its own. -/
theorem frame_paint_of_sameState {s : Canvas} (h : s.SameState p.canvas) (scene : Option Scene)
    (elapsed : Duration) (trace : Option String) :
    (p.painter.paint scene elapsed trace s).1.frame = p.renderFrame scene elapsed trace :=
  h.frame_paint p.isWhole_canvas p.painter scene elapsed trace

/-- A sequence on a used canvas is rendered frame by frame. -/
theorem shotsOn_eq_map {s : Canvas} (h : s.SameState p.canvas) (scene : Option Scene)
    (times : List Duration) :
    p.shotsOn scene times s = times.map fun t => (t, p.renderFrame scene t none) := by
  induction times generalizing s with
  | nil => rfl
  | cons t rest ih =>
    have hpainted := (Canvas.sameState_paint p.painter scene t none s).trans h
    rw [shotsOn, List.map_cons, ih hpainted, p.frame_paint_of_sameState h]

end Pipeline

namespace Reel

/-- Some refreshes one after the other, each with its report and the frame after it. -/
def shots : List Timestamp → Reel → List (Except Fault TickReport × Frame)
  | [], _ => []
  | now :: rest, r => ((r.next now).2, (r.next now).1.frame) :: shots rest (r.next now).1

/-- A reel that plays what a payload was understood as, on a canvas of a pipeline.  Its scene may
still be queued, and its host answers every request. -/
structure Plays (r : Reel) (p : Pipeline) (result : Normalized) : Prop where
  canvas : r.canvas.SameState p.canvas
  painter : r.player.painter = p.painter
  active : r.player.state ≠ .idle
  scene : r.player.upcoming = result.scene
  trace : r.player.trace = some result.trace
  answer : ∀ n, ∃ handle, r.host.answer n = .ok handle

/-- A player that has been asked to play a payload plays it. -/
theorem plays_start (s : Settings) {p : Pipeline} (hp : p.painter = .ofSettings s)
    (payload : Json) :
    (start s p.canvas payload).Plays p
      ((Normalizer.ofPeriod s.playback.defaultPeriod).normalize payload) := by
  obtain ⟨state, hstate, hactive⟩ : ∃ state : PlayState,
      (if s.playback.autoplay then .running else .paused) = state ∧ state ≠ .idle := by
    refine ⟨_, rfl, ?_⟩
    split <;> simp
  have hattach : (Player.ofSettings s).attach (.counting fun _ => false) =
      Player.schedule { Player.ofSettings s with state } (.counting fun _ => false) := by
    rw [← hstate]
    rfl
  rw [start, hattach, Player.schedule_of_active hactive rfl (by rfl)]
  exact ⟨.refl _, hp.symm, hactive, rfl, rfl, fun n => ⟨n, rfl⟩⟩

/-- The next refresh is one of the player, on a host that has called back. -/
theorem next_eq (r : Reel) (now : Timestamp) :
    ∃ fired : Host, fired.answer = r.host.answer ∧
      r.next now =
        (⟨(r.player.onFrame r.canvas fired now).1, (r.player.onFrame r.canvas fired now).2.1,
          (r.player.onFrame r.canvas fired now).2.2.1⟩,
          (r.player.onFrame r.canvas fired now).2.2.2) := by
  obtain ⟨player, canvas, host⟩ := r
  refine ⟨host.fireAny player.pending, ?_, rfl⟩
  cases player.pending <;> rfl

/-- One refresh of a reel: it is answered, it leaves the frame of the reported playback time, and
the reel plays on. -/
theorem Plays.next {r : Reel} {p : Pipeline} {result : Normalized} (h : r.Plays p result)
    (now : Timestamp) :
    ∃ report, (r.next now).2 = .ok report ∧
      (r.next now).1.frame =
        p.renderFrame result.scene report.elapsed (some result.trace.toText) ∧
      (r.next now).1.Plays p result := by
  obtain ⟨fired, hfired, hnext⟩ := r.next_eq now
  obtain ⟨handle, hhandle⟩ := hfired ▸ h.answer (fired.requests + 1)
  obtain ⟨elapsed, hmoved⟩ := r.player.moved_eq now
  have hpaint : (r.player.moved now).paint r.canvas =
      p.painter.paint result.scene (r.player.moved now).elapsed (some result.trace.toText)
        r.canvas := by
    simp only [Player.paint, hmoved, h.painter, h.scene, h.trace, Option.map_some]
  rw [hnext, Player.onFrame_of_active h.active r.canvas hhandle now, hpaint]
  refine ⟨_, rfl, p.frame_paint_of_sameState h.canvas _ _ _, ?_⟩
  rw [hmoved]
  refine ⟨?_, h.painter, h.active, h.scene, h.trace, fun n => hfired ▸ h.answer n⟩
  exact (Canvas.sameState_paint _ _ _ _ _).trans h.canvas

/-- All refreshes of a reel: each is answered and leaves the frame of the reported playback time. -/
theorem Plays.shots {r : Reel} {p : Pipeline} {result : Normalized} (h : r.Plays p result)
    (times : List Timestamp) :
    ∃ reports : List TickReport, reports.length = times.length ∧
      r.shots times = reports.map fun report => (.ok report,
        p.renderFrame result.scene report.elapsed (some result.trace.toText)) := by
  induction times generalizing r with
  | nil => exact ⟨[], rfl, rfl⟩
  | cons now rest ih =>
    obtain ⟨report, hreport, hframe, hnext⟩ := h.next now
    obtain ⟨reports, hlength, hshots⟩ := ih hnext
    refine ⟨report :: reports, congrArg (· + 1) hlength, ?_⟩
    rw [Reel.shots, hreport, hframe, hshots, List.map_cons]

end Reel

/-- **The ways to a frame agree.** For every pipeline, frame `i` of a sequence at any rate is the
frame that is rendered alone at the same moment, without a trace.  For some settings, faces and a
drawing area, each refresh of a player on the canvas of the pipeline, at whatever times, is
answered, and the frame after it is the one that is rendered alone for the scene of the payload, the
playback time of the report and the trace of the payload. -/
theorem Pipeline.renderings_agree :
    (∀ (p : Pipeline) (scene : Option Scene) (fps : Float) (count : Nat),
      (p.renderSequence scene fps count).shots =
        ((List.range count).map (momentOf (fitRate fps))).map fun t =>
          (t, p.renderFrame scene t none)) ∧
    ∀ (s : Settings) (fonts : FontBook) (viewport : Viewport) (payload : Json)
      (times : List Timestamp),
      let p : Pipeline := ⟨.ofSettings s, fonts, viewport⟩
      let result := (Normalizer.ofPeriod s.playback.defaultPeriod).normalize payload
      ∃ reports : List TickReport, reports.length = times.length ∧
        (Reel.start s p.canvas payload).shots times = reports.map fun report => (.ok report,
          p.renderFrame result.scene report.elapsed (some result.trace.toText)) := by
  refine ⟨fun p scene fps count => ?_, fun s fonts viewport payload times => ?_⟩
  · exact p.shotsOn_eq_map (.refl p.canvas) scene _
  · exact (Reel.plays_start s rfl payload).shots times

end SceneLoop
