import SceneLoop.Fault

/-!
# Hosts

A host calls back at the next refresh of its display, once for every request.  It names each
request by a handle, under which the request can be cancelled.

## Main definitions

* `Host` : what a host was asked for, and how it answers.
* `Host.request`, `Host.cancel` : a request, and its cancellation.
* `Host.fire`, `Host.fireAny` : the call back for a request, if there was one.
-/

namespace SceneLoop

/-- The name of a request. -/
abbrev Handle := Int

/-- What a host was asked for, and how it answers. -/
structure Host where
  /-- The answer to each request, counted from one. -/
  answer : Nat → Except Fault Handle
  /-- How many requests there were. -/
  requests : Nat := 0
  /-- The handles of requests that were neither cancelled nor answered by a call back. -/
  live : List Handle := []
  /-- The handles that were cancelled, the last one first. -/
  cancelled : List Handle := []

namespace Host

/-- A host that numbers its requests from one and refuses some of them. -/
def counting (refuses : Nat → Bool) : Host where
  answer n := if refuses n then .error (.surface "refresh refused") else .ok n

/-- Ask for a call back at the next refresh. -/
def request (h : Host) : Host × Except Fault Handle :=
  let n := h.requests + 1
  match h.answer n with
  | .ok handle => ({ h with requests := n, live := handle :: h.live }, .ok handle)
  | .error fault => ({ h with requests := n }, .error fault)

/-- Cancel a request. -/
def cancel (handle : Handle) (h : Host) : Host :=
  { h with live := h.live.erase handle, cancelled := handle :: h.cancelled }

/-- Call back for a request. -/
def fire (handle : Handle) (h : Host) : Host :=
  { h with live := h.live.erase handle }

/-- Call back for a request, if there was one. -/
def fireAny (pending : Option Handle) (h : Host) : Host :=
  match pending with
  | some handle => h.fire handle
  | none => h

end Host

end SceneLoop
