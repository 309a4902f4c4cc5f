import SceneLoop.Proofs.Playback.Session

/-!
# Outstanding refreshes

A player asks its host for one refresh at a time and holds the handle of the one that is
outstanding.  It cancels this one when it leaves its surface, and without a surface it neither asks
for a refresh nor paints.

## Main definitions

* `Host.Asked` : what a player may ask of its host in one event.
* `Event.IsDue`, `Session.IsOrderly` : events where the host calls back for live requests only.
* `Session.IsHeld` : the live requests are those that the player holds.

## Main results

* `Session.IsHeld.step` : what one event keeps, and what it asks of the host.
* `Session.IsOff.step` : without a surface nothing happens.
* `Session.refresh_outstanding` : at most one refresh is outstanding, in every session.
-/

namespace SceneLoop

/-- What a player may ask of its host in one event: nothing, a refresh while none is outstanding, or
that the only outstanding one is cancelled. -/
inductive Host.Asked (h : Host) : Host → Prop where
  /-- Nothing is asked. -/
  | nothing : Asked h h
  /-- A refresh is asked for. -/
  | refresh (hlive : h.live = []) : Asked h h.request.1
  /-- The outstanding refresh is cancelled. -/
  | cancellation {handle : Handle} (hlive : h.live = [handle]) : Asked h (h.cancel handle)

/-- Whether a host may take part in an event: it calls back for live requests only. -/
def Event.IsDue {σ : Type} (h : Host) : Event σ → Prop
  | .refresh handle _ _ => handle ∈ h.live
  | _ => True

namespace Session

/-- The live requests are those that the player holds, and without a surface it holds none. -/
structure IsHeld (S : Session) : Prop where
  live : S.host.live = S.player.pending.toList
  idle : S.player.state = .idle → S.player.pending = none

/-- A player without a surface that holds no request. -/
structure IsOff (S : Session) : Prop where
  state : S.player.state = .idle
  pending : S.player.pending = none

variable {σ : Type} [Surface σ]

/-- Events one after the other, where the host calls back for live requests only. -/
def IsOrderly : Session → List (Event σ) → Prop
  | _, [] => True
  | S, e :: es => e.IsDue S.host ∧ (S.step e).1.IsOrderly es

/-! ### One event -/

theorem isHeld_start (s : Settings) (answer : Nat → Except Fault Handle) :
    (start s answer).IsHeld :=
  ⟨rfl, fun _ => rfl⟩

/-- Asking for a refresh: it is asked for only if none is outstanding, and it is held. -/
theorem IsHeld.schedule {p : Player} {h : Host} (hheld : IsHeld ⟨p, h⟩) :
    IsHeld ⟨(p.schedule h).1, (p.schedule h).2.1⟩ ∧ h.Asked (p.schedule h).2.1 := by
  rw [Player.schedule]
  split
  · exact ⟨hheld, .nothing⟩
  · next hfree =>
    obtain ⟨hstate, hpending⟩ : p.state ≠ .idle ∧ p.pending = none := by simpa using hfree
    have hlive : h.live = [] := by rw [hheld.live, hpending]; rfl
    have hasked := Host.Asked.refresh hlive
    rw [Host.request] at hasked ⊢
    cases hanswer : h.answer (h.requests + 1) with
    | ok handle =>
      simp only [hanswer] at hasked
      exact ⟨⟨congrArg (handle :: ·) hlive, fun hidle => absurd hidle hstate⟩, hasked⟩
    | error fault =>
      simp only [hanswer] at hasked
      exact ⟨⟨hheld.live, hheld.idle⟩, hasked⟩

theorem IsHeld.detach {S : Session} (h : S.IsHeld) :
    (S.step (.detach : Event σ)).1.IsHeld ∧
      S.host.Asked (S.step (.detach : Event σ)).1.host := by
  cases hpending : S.player.pending with
  | none =>
    have hlive : S.host.live = [] := by rw [h.live, hpending]; rfl
    simp only [step, hostAt, Player.detach, hpending]
    exact ⟨⟨hlive, fun _ => rfl⟩, .nothing⟩
  | some handle =>
    have hlive : S.host.live = [handle] := by rw [h.live, hpending]; rfl
    simp only [step, hostAt, Player.detach, hpending]
    refine ⟨⟨?_, fun _ => rfl⟩, .cancellation hlive⟩
    simp [Host.cancel, hlive]

/-- A call back for the live request, which the player takes as the end of the one that it holds. -/
theorem IsHeld.fire {S : Session} (h : S.IsHeld) {handle : Handle} (hdue : handle ∈ S.host.live)
    (now : Timestamp) :
    IsHeld ⟨{ S.player.ticked now with pending := none }, S.host.fire handle⟩ := by
  refine ⟨?_, fun _ => rfl⟩
  rw [h.live, Option.mem_toList] at hdue
  change S.host.live.erase handle = []
  rw [h.live, hdue, Option.toList_some, List.erase_cons_head]

/-- **One event.** The live requests stay those that the player holds, and the player asks its host
for at most one thing, in order. -/
theorem IsHeld.step {S : Session} (h : S.IsHeld) {e : Event σ} (hdue : e.IsDue S.host) :
    (S.step e).1.IsHeld ∧ (S.hostAt e).Asked (S.step e).1.host := by
  cases e with
  | attach =>
    have hactive : (if S.player.autoplay then .running else .paused) ≠ PlayState.idle := by
      split <;> decide
    exact IsHeld.schedule ⟨h.live, fun hidle => absurd hidle hactive⟩
  | detach => exact h.detach
  | control c =>
    simp only [Session.step, hostAt, Player.control_eq]
    exact ⟨⟨h.live, fun hidle => h.idle ((c.playState_eq_idle_iff _).1 hidle)⟩, .nothing⟩
  | tick s now =>
    obtain ⟨_, _, _, _, _, hticked⟩ := S.player.ticked_eq now
    simp only [Session.step, hostAt, Player.fst_tick, hticked]
    exact ⟨⟨h.live, h.idle⟩, .nothing⟩
  | refresh handle s now =>
    simp only [Session.step, hostAt, Player.onFrame_eq]
    exact (h.fire hdue now).schedule

/-- Without a surface, all that can come is a new surface: no other event paints, asks for a refresh
or makes the player play. -/
theorem IsOff.step {S : Session} (h : S.IsOff) {e : Event σ} (he : e ≠ .attach) :
    (S.step e).1.IsOff ∧ (S.step e).2 = e.surface? ∧
      (S.step e).1.host.requests = S.host.requests := by
  have hticked (now : Timestamp) : S.player.ticked now = S.player := by
    rw [Player.ticked, if_pos h.state]
  cases e with
  | attach => exact absurd rfl he
  | detach =>
    simp only [Session.step, hostAt, Player.detach, h.pending]
    exact ⟨⟨rfl, rfl⟩, rfl, trivial⟩
  | control c =>
    simp only [Session.step, hostAt, Player.control_eq]
    exact ⟨⟨(c.playState_eq_idle_iff _).2 h.state, h.pending⟩, rfl, trivial⟩
  | tick s now =>
    simp only [Session.step, hostAt, Player.tick_of_idle h.state]
    exact ⟨h, rfl, trivial⟩
  | refresh handle s now =>
    have hidle : { S.player with pending := none }.state = .idle := h.state
    have hschedule (host : Host) : { S.player with pending := none }.schedule host =
        ({ S.player with pending := none }, host, none) := by
      simp only [Player.schedule, h.state, decide_true, Bool.true_or, if_true]
    simp only [Session.step, hostAt, Player.onFrame_eq, hticked, hschedule,
      Player.tick_of_idle hidle]
    exact ⟨⟨h.state, rfl⟩, rfl, rfl⟩

theorem isOff_detach (S : Session) : (S.step (.detach : Event σ)).1.IsOff := by
  simp only [step, Player.detach]
  exact ⟨rfl, rfl⟩

/-! ### Many events -/

theorem IsHeld.run {S : Session} (h : S.IsHeld) {es : List (Event σ)} (hes : S.IsOrderly es) :
    (S.run es).IsHeld := by
  induction es generalizing S with
  | nil => exact h
  | cons e es ih => exact ih (h.step hes.1).1 hes.2

theorem IsOff.run {S : Session} (h : S.IsOff) {es : List (Event σ)} (hes : ∀ e ∈ es, e ≠ .attach) :
    (S.run es).IsOff := by
  induction es generalizing S with
  | nil => exact h
  | cons e es ih =>
    obtain ⟨he, hrest⟩ := List.forall_mem_cons.1 hes
    exact ih (h.step he).1 hrest

/-- **At most one refresh is outstanding.** Take any settings and any host, and any events where the
host calls back for live requests only.  After them the live requests are those that the player
holds, which is none or one; without a surface there is none; and whatever event comes next, the
player asks for a refresh only while none is outstanding and cancels only the outstanding one.
After a player has left its surface, at any time, no event up to the next surface paints, asks for a
refresh or makes it play. -/
theorem refresh_outstanding :
    (∀ (s : Settings) (answer : Nat → Except Fault Handle) (es : List (Event σ)),
      (start s answer).IsOrderly es →
        let S := (start s answer).run es
        S.host.live = S.player.pending.toList ∧
          (S.player.state = .idle → S.host.live = []) ∧
          ∀ e : Event σ, e.IsDue S.host → (S.hostAt e).Asked (S.step e).1.host) ∧
    ∀ (S : Session) (es : List (Event σ)), (∀ e ∈ es, e ≠ .attach) →
      let T := (S.step (.detach : Event σ)).1.run es
      T.player.state = .idle ∧
        ∀ e : Event σ, e ≠ .attach →
          (T.step e).1.player.state = .idle ∧ (T.step e).2 = e.surface? ∧
            (T.step e).1.host.requests = T.host.requests := by
  refine ⟨fun s answer es hes => ?_, fun S es hes => ?_⟩
  · have hheld := (isHeld_start s answer).run hes
    refine ⟨hheld.live, fun hidle => ?_, fun e hdue => (hheld.step hdue).2⟩
    rw [hheld.live, hheld.idle hidle, Option.toList_none]
  · have hoff := (isOff_detach (σ := σ) S).run hes
    exact ⟨hoff.state, fun e he => ⟨(hoff.step he).1.state, (hoff.step he).2⟩⟩

/-- A player is put on a surface, called back, taken off the surface and put on one twice. -/
def interrupted : List (Event Recording) :=
  [.attach, .control .toggle, .tick .sheet ⟨10⟩, .refresh 1 .sheet ⟨20⟩, .detach, .attach, .attach]

/-- After an interruption and a refused request the player holds the request that is live.  Off the
surface even a call back paints nothing. -/
theorem refresh_outstanding_interrupted :
    ∃ answer, answer = (Host.counting (· = 3)).answer ∧
      (start default answer).IsOrderly interrupted ∧
      ∃ S, S = (start default answer).run interrupted ∧
        S.host.live = S.player.pending.toList ∧ S.host.live = [4] ∧ S.host.cancelled = [2] ∧
        (((S.step (.detach : Event Recording)).1.run
          [.control .rewind, .tick Recording.sheet ⟨30⟩]).step
            (.refresh 4 Recording.sheet ⟨40⟩)).2 = some Recording.sheet := by
  have hes : (start default (Host.counting (· = 3)).answer).IsOrderly interrupted := by
    simp only [interrupted, IsOrderly, Event.IsDue, true_and, and_true]
    decide +kernel
  have hoff (S : Session) :=
    refresh_outstanding.2 S [.control .rewind, .tick Recording.sheet ⟨30⟩] (by simp)
  exact ⟨_, rfl, hes, _, rfl, (refresh_outstanding.1 default _ _ hes).1, by decide +kernel,
    by decide +kernel, ((hoff _).2 (.refresh 4 .sheet ⟨40⟩) (by simp)).2.1⟩

end Session

end SceneLoop
