import ClientGen.Call.Arguments
import ClientGen.Call.Pages
import ClientGen.Call.Transport

/-!
# Calls from start to end

A long-running operation answers 202 until it is done. Each such response may announce where to ask next; the place
announced last counts.

A call of a plain operation is one request. A long-running operation is polled until it is done; a paging one gives
all its items.
-/

/-! ## Polling -/

namespace ClientGen.Call

/-- The status of an operation that is still running. -/
def acceptedStatus : Nat := 202

structure Poller where
  url : Option String
  result : Option Json
  polls : Nat

namespace Poller

def isDone (p : Poller) : Bool := p.result.isSome

def announced? (r : Response) : Option String :=
  r.header? "operation-location" <|> r.header? "location"

def receive (op : Plan.Operation) (r : Response) (p : Poller) : Except CallError Poller :=
  if r.status = acceptedStatus then
    match announced? r <|> p.url with
    | some url => .ok { p with url := some url }
    | none => .error .missingPollingLocation
  else do .ok { p with result := some (← deserialize op r) }

variable {τ : Type}

def begin (t : Transport τ) (op : Plan.Operation) (args : Arguments) (state : τ) : Except CallError Poller × τ :=
  match request op args with
  | .error e => (.error e, state)
  | .ok request => match t request state with
    | (.error e, state) => (.error e, state)
    | (.ok response, state) => (receive op response ⟨none, none, 0⟩, state)

/-- Asks once, unless the operation is done. The poller is kept also when asking fails. -/
def poll (t : Transport τ) (op : Plan.Operation) (p : Poller) (state : τ) : Except CallError Unit × Poller × τ :=
  if p.isDone then (.ok (), p, state)
  else match p.url with
    | none => (.error .missingPollingLocation, p, state)
    | some url => match t (.follow url) state with
      | (.error e, state) => (.error e, p, state)
      | (.ok response, state) =>
        let p := { p with polls := p.polls + 1 }
        match receive op response p with
        | .error e => (.error e, p, state)
        | .ok p => (.ok (), p, state)

/-- Asking without a failure is the end or uses up a response. -/
theorem poll_decreases {t : FiniteTransport τ} {op : Plan.Operation} {p p' : Poller} {state state' : τ}
    (hp : p.result = none) (h : poll t.send op p state = (.ok (), p', state')) :
    t.remaining state' < t.remaining state := by
  have hd : p.isDone = false := by simp [isDone, hp]
  unfold poll at h
  rw [hd] at h
  simp only [Bool.false_eq_true, if_false] at h
  split at h
  · simp at h
  · split at h
    · simp at h
    · next hsend =>
      split at h
      · simp at h
      · simp only [Prod.mk.injEq] at h
        exact h.2.2 ▸ t.remaining_lt hsend

def finish (t : FiniteTransport τ) (op : Plan.Operation) (p : Poller) (state : τ) : Except CallError Json × τ :=
  match _ : p.result with
  | some j => (.ok j, state)
  | none => match _ : poll t.send op p state with
    | (.error e, _, state) => (.error e, state)
    | (.ok (), p, state) => finish t op p state
termination_by t.remaining state
decreasing_by exact poll_decreases ‹_› ‹_›

end Poller

/-! ## Calls from start to end -/

variable {τ : Type}

def once (t : Transport τ) (op : Plan.Operation) (args : Arguments) (state : τ) : Except CallError Json × τ :=
  match request op args with
  | .error e => (.error e, state)
  | .ok request => match t request state with
    | (.error e, state) => (.error e, state)
    | (.ok response, state) => (deserialize op response, state)

def untilDone (t : FiniteTransport τ) (op : Plan.Operation) (args : Arguments) (state : τ) :
    Except CallError Json × τ :=
  match Poller.begin t.send op args state with
  | (.error e, state) => (.error e, state)
  | (.ok p, state) => p.finish t op state

def invoke (t : FiniteTransport τ) (op : Plan.Operation) (args : Arguments) (state : τ) :
    Except CallError Json × τ :=
  match op.kind with
  | .plain => once t.send op args state
  | .longRunning => untilDone t op args state
  | .paging =>
    let (items, state) := Pages.start.collect t op args state
    (items.map .array, state)

end ClientGen.Call
