import SceneLoop.Proofs.Playback.Refreshes

/-!
# Refused requests

A player that asks its host for the next refresh and is refused keeps its play state, but from then
on holds no request.  It is stalled: no call back will come until it is put on a surface again,
while it still says that it plays.  This is the only way to stall, so that a player on a surface holds a
request unless the last one was refused.

## Main definitions

* `Session.IsStalled` : a player on a surface that holds no request.
* `Session.fault?` : the fault that an event ends with.
* `Session.EndsRefused` : events after which the last request was refused.

## Main results

* `Session.isStalled_step_iff`, `Session.isStalled_run_iff` : players stall by refusal only.
* `Session.IsSilent.run` : without a request, the host does not call back before the next surface.
* `Session.outstanding_unless_refused` : a request is outstanding unless it was refused.
-/

namespace SceneLoop

/-- Events that neither bring nor end a request: a user asks for something, or a tick comes by
itself. -/
def Event.isAside {σ : Type} : Event σ → Bool
  | .control _ | .tick _ _ => true
  | _ => false

/-- Whether the host calls back. -/
def Event.isRefresh {σ : Type} : Event σ → Bool
  | .refresh .. => true
  | _ => false

namespace Session

/-- A player on a surface that holds no request. -/
structure IsStalled (S : Session) : Prop where
  state : S.player.state ≠ .idle
  pending : S.player.pending = none

/-- The live requests are those that the player holds, which are none. -/
structure IsSilent (S : Session) : Prop where
  isHeld : S.IsHeld
  pending : S.player.pending = none

variable {σ : Type} [Surface σ]

/-- The fault that an event ends with: the host was asked for a refresh and refused it. -/
def fault? (S : Session) (e : Event σ) : Option Fault :=
  match e with
  | .attach => (S.player.attach (S.hostAt e)).2.2
  | .refresh _ surface now =>
    match (S.player.onFrame surface (S.hostAt e) now).2.2.2 with
    | .ok _ => none
    | .error fault => some fault
  | _ => none

/-- Events after which the last request was refused: one of them ends with a fault, and only events
that bring no request come after it. -/
def EndsRefused : Session → List (Event σ) → Prop
  | _, [] => False
  | S, e :: es => (S.fault? e).isSome ∧ (∀ f ∈ es, f.isAside) ∨ (S.step e).1.EndsRefused es

/-! ### Stalling -/

/-- Asking for a refresh stalls the player if and only if it ends with a fault. -/
theorem isStalled_schedule_iff (p : Player) (h : Host) :
    IsStalled ⟨(p.schedule h).1, (p.schedule h).2.1⟩ ↔ (p.schedule h).2.2.isSome := by
  rw [Player.schedule]
  split
  · next hready =>
    have hready : p.state = .idle ∨ p.pending.isSome := by simpa using hready
    refine iff_of_false (fun hstalled => ?_) (by simp)
    rcases hready with hidle | hpending
    · exact hstalled.state hidle
    · rw [hstalled.pending] at hpending
      cases hpending
  · next hfree =>
    obtain ⟨hstate, hpending⟩ : p.state ≠ .idle ∧ p.pending = none := by simpa using hfree
    split
    · exact iff_of_false (fun hstalled => by cases hstalled.pending) (by simp)
    · exact iff_of_true ⟨hstate, hpending⟩ rfl

theorem fault?_refresh (S : Session) (handle : Handle) (s : σ) (now : Timestamp) :
    S.fault? (.refresh handle s now) =
      ({ S.player.ticked now with pending := none }.schedule (S.host.fire handle)).2.2 := by
  simp only [fault?, hostAt, Player.onFrame_eq]
  cases ({ S.player.ticked now with pending := none }.schedule (S.host.fire handle)).2.2 <;> rfl

/-- **One event.** A player is stalled after an event if it was refused there, or if it was stalled
before and the event brings no request. -/
theorem isStalled_step_iff (S : Session) (e : Event σ) :
    (S.step e).1.IsStalled ↔ (S.fault? e).isSome ∨ e.isAside ∧ S.IsStalled := by
  -- What neither changes the request nor moves the player to or off a surface leaves it stalled.
  have hkept {p : Player} (hstate : p.state = .idle ↔ S.player.state = .idle)
      (hpending : p.pending = S.player.pending) : IsStalled ⟨p, S.host⟩ ↔ S.IsStalled :=
    ⟨fun h => ⟨fun hidle => h.state (hstate.2 hidle), hpending ▸ h.pending⟩,
      fun h => ⟨fun hidle => h.state (hstate.1 hidle), hpending.trans h.pending⟩⟩
  cases e with
  | attach =>
    simp only [Event.isAside, Bool.false_eq_true, false_and, or_false]
    exact isStalled_schedule_iff _ S.host
  | detach =>
    simp only [Event.isAside, Bool.false_eq_true, false_and, or_false]
    exact iff_of_false (fun hstalled => hstalled.state rfl) (by simp [fault?])
  | control c =>
    have hcontrol : (S.step (.control c : Event σ)).1.IsStalled ↔ S.IsStalled := by
      simp only [step, hostAt, Player.control_eq]
      exact hkept (c.playState_eq_idle_iff _) rfl
    simpa [fault?, Event.isAside] using hcontrol
  | tick s now =>
    have htick : (S.step (.tick s now)).1.IsStalled ↔ S.IsStalled := by
      obtain ⟨_, _, _, _, _, hticked⟩ := S.player.ticked_eq now
      simp only [step, hostAt, Player.fst_tick, hticked]
      exact hkept .rfl rfl
    simpa [fault?, Event.isAside] using htick
  | refresh handle s now =>
    simp only [Event.isAside, Bool.false_eq_true, false_and, or_false, fault?_refresh, step, hostAt,
      Player.onFrame_eq]
    exact isStalled_schedule_iff _ _

/-- A player is stalled after some events if the last request was refused, or if it was stalled
before and no event brings a request. -/
theorem isStalled_run_iff (S : Session) (es : List (Event σ)) :
    (S.run es).IsStalled ↔ S.EndsRefused es ∨ (∀ e ∈ es, e.isAside) ∧ S.IsStalled := by
  induction es generalizing S with
  | nil => simp [run, EndsRefused]
  | cons e es ih =>
    have hrun : S.run (e :: es) = (S.step e).1.run es := rfl
    rw [hrun, ih, isStalled_step_iff, EndsRefused, List.forall_mem_cons]
    grind

/-! ### Silence -/

omit [Surface σ] in
/-- A host that was asked for nothing does not call back. -/
theorem IsSilent.not_isRefresh {S : Session} (h : S.IsSilent) {e : Event σ}
    (hdue : e.IsDue S.host) : e.isRefresh = false := by
  cases e with
  | refresh handle s now =>
    rw [Event.IsDue, h.isHeld.live, h.pending] at hdue
    cases hdue
  | attach | detach | control | tick => rfl

theorem IsSilent.step {S : Session} (h : S.IsSilent) {e : Event σ} (hdue : e.IsDue S.host)
    (he : e ≠ .attach) : (S.step e).1.IsSilent := by
  refine ⟨(h.isHeld.step hdue).1, ?_⟩
  cases e with
  | attach => exact absurd rfl he
  | detach => rfl
  | control c =>
    simp only [Session.step, Player.control_eq]
    exact h.pending
  | tick s now =>
    obtain ⟨_, _, _, _, _, hticked⟩ := S.player.ticked_eq now
    simp only [Session.step, Player.fst_tick, hticked]
    exact h.pending
  | refresh => cases h.not_isRefresh hdue

/-- A host that was asked for nothing does not call back before the next surface. -/
theorem IsSilent.run {S : Session} (h : S.IsSilent) {es : List (Event σ)} (hes : S.IsOrderly es)
    (hstay : ∀ e ∈ es, e ≠ .attach) : ∀ e ∈ es, e.isRefresh = false := by
  induction es generalizing S with
  | nil => simp
  | cons e es ih =>
    obtain ⟨he, hrest⟩ := List.forall_mem_cons.1 hstay
    exact List.forall_mem_cons.2
      ⟨h.not_isRefresh hes.1, ih (h.step hes.1 he) hes.2 hrest⟩

/-! ### Sessions -/

/-- **A player on a surface holds a request unless the last one was refused.** Take any settings, a
host that may refuse any request, and events where the host calls back for live requests only.  If
the last request was not refused and the player is on a surface, then a refresh is outstanding, at
the player and at the host.  If it was refused, the player is still on its surface, paused or
playing, but holds no request, and the host does not call back before the next surface. -/
theorem outstanding_unless_refused (s : Settings) (answer : Nat → Except Fault Handle)
    {es : List (Event σ)} (hes : (start s answer).IsOrderly es) :
    let S := (start s answer).run es
    (¬(start s answer).EndsRefused es → S.player.state ≠ .idle →
      ∃ handle, S.player.pending = some handle ∧ S.host.live = [handle]) ∧
    ((start s answer).EndsRefused es →
      S.player.state ≠ .idle ∧ S.player.hasPending = false ∧
        ∀ fs : List (Event σ), S.IsOrderly fs → (∀ f ∈ fs, f ≠ .attach) →
          ∀ f ∈ fs, f.isRefresh = false) := by
  intro S
  have hheld : S.IsHeld := (isHeld_start s answer).run hes
  have hstart : ¬(start s answer).IsStalled := fun h => h.state rfl
  have hstalled : S.IsStalled ↔ (start s answer).EndsRefused es := by
    rw [isStalled_run_iff]
    exact or_iff_left fun h => hstart h.2
  rw [← hstalled]
  refine ⟨fun hlive hstate => ?_, fun h => ⟨h.state, ?_, fun fs hfs hstay => ?_⟩⟩
  · cases hpending : S.player.pending with
    | none => exact absurd ⟨hstate, hpending⟩ hlive
    | some handle => exact ⟨handle, rfl, by rw [hheld.live, hpending]; rfl⟩
  · rw [Player.hasPending, h.pending]
    rfl
  · exact IsSilent.run ⟨hheld, h.pending⟩ hfs hstay

/-- A player whose second request, in a call back, is refused. -/
def refused : List (Event Recording) :=
  [.attach, .refresh 1 .sheet ⟨0⟩, .tick .sheet ⟨16⟩, .control .toggle, .control .toggle]

/-- Such a player is stalled until it is put on a surface again. -/
theorem outstanding_unless_refused_again :
    ∃ S, S = start default (Host.counting (· = 2)).answer ∧
      S.IsOrderly (refused ++ [.attach]) ∧ ¬S.EndsRefused (refused ++ [.attach]) ∧
      (∃ handle, (S.run (refused ++ [.attach])).player.pending = some handle ∧
        (S.run (refused ++ [.attach])).host.live = [handle]) ∧
      S.EndsRefused refused ∧ (S.run refused).player.hasPending = false := by
  obtain ⟨S, hS⟩ : ∃ S, S = start default (Host.counting (· = 2)).answer := ⟨_, rfl⟩
  have hes : S.IsOrderly (refused ++ [.attach]) ∧ S.IsOrderly refused := by
    simp only [hS, refused, List.cons_append, List.nil_append, IsOrderly, Event.IsDue, true_and,
      and_true]
    decide +kernel
  have hrefused : S.EndsRefused refused := by
    rw [hS]
    exact .inr (.inl ⟨by decide +kernel, by simp [Event.isAside]⟩)
  have hagain : ¬S.EndsRefused (refused ++ [.attach]) := by
    intro h
    have hpending := ((isStalled_run_iff S _).2 (.inl h)).pending
    rw [hS] at hpending
    revert hpending
    decide +kernel
  have hactive : (S.run (refused ++ [.attach])).player.state ≠ .idle := by
    rw [hS]
    decide +kernel
  obtain ⟨houtstanding, -⟩ := outstanding_unless_refused _ _ (hS ▸ hes.1)
  obtain ⟨-, hstalled⟩ := outstanding_unless_refused _ _ (hS ▸ hes.2)
  rw [← hS] at houtstanding hstalled
  exact ⟨S, hS, hes.1, hagain, houtstanding hagain hactive, hrefused, (hstalled hrefused).2.1⟩

/-- A player that is refused, be it at the start or in a call back, says that it plays, but holds no
request, and will not be called back before the next surface. -/
theorem playing_without_request :
    (∃ S, S = (start default (Host.counting (· = 1)).answer).run [(.attach : Event Recording)] ∧
      S.player.state = .running ∧ S.player.hasPending = false ∧
      S.player.statusLine = "Status: Demo | Playing: Yes") ∧
    ∃ S, S = (start default (Host.counting (· = 2)).answer).run refused ∧
      (start default (Host.counting (· = 2)).answer).IsOrderly refused ∧
      S.player.state = .running ∧ S.player.hasPending = false ∧
      S.player.statusLine = "Status: Demo | Playing: Yes" ∧
      ∀ fs : List (Event Recording), S.IsOrderly fs → (∀ f ∈ fs, f ≠ .attach) →
        ∀ f ∈ fs, f.isRefresh = false := by
  refine ⟨⟨_, rfl, by decide +kernel, by decide +kernel, by decide +kernel⟩, ?_⟩
  have hes : (start default (Host.counting (· = 2)).answer).IsOrderly refused := by
    simp only [refused, IsOrderly, Event.IsDue, true_and, and_true]
    decide +kernel
  have hheld := (isHeld_start default (Host.counting (· = 2)).answer).run hes
  exact ⟨_, rfl, hes, by decide +kernel, by decide +kernel, by decide +kernel,
    fun fs hfs hstay => IsSilent.run ⟨hheld, by decide +kernel⟩ hfs hstay⟩

end Session

end SceneLoop
