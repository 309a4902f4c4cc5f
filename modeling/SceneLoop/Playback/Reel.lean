import SceneLoop.Playback.Pipeline
import SceneLoop.Playback.Player

/-!
# Reels

A reel is a player on a canvas with a host that answers every request, so that each frame can be
taken from the canvas.

## Main definitions

* `Reel.start`, `Reel.next` : the beginning of playback, and the next refresh.
* `Reel.next?` : the next refresh where sums are checked.
-/

namespace SceneLoop

/-- A player on a canvas. -/
structure Reel where
  /-- The player. -/
  player : Player
  /-- The canvas. -/
  canvas : Canvas
  /-- The host. -/
  host : Host

namespace Reel

/-- A player on a cleared canvas that has been asked to play a payload. -/
def start (s : Settings) (canvas : Canvas) (payload : Json) : Reel :=
  let (player, host, _) := (Player.ofSettings s).attach (.counting fun _ => false)
  ⟨(player.load payload).1, canvas, host⟩

/-- The next refresh. -/
def next (now : Timestamp) : Reel → Reel × Except Fault TickReport
  | ⟨player, canvas, host⟩ =>
    let (player, canvas, host, result) := player.onFrame canvas (host.fireAny player.pending) now
    (⟨player, canvas, host⟩, result)

/-- The next refresh, unless a sum overflows in it. -/
def next? (now : Timestamp) : Reel → Option (Reel × Except Fault TickReport)
  | ⟨player, canvas, host⟩ =>
    let (player, s, host, result) :=
      player.onFrame (CheckedCanvas.of canvas) (host.fireAny player.pending) now
    s.canvas?.map fun canvas => (⟨player, canvas, host⟩, result)

/-- The frame on the canvas. -/
def frame (r : Reel) : Frame :=
  r.canvas.frame

end Reel

end SceneLoop
