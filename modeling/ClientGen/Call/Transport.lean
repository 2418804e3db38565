import ClientGen.Call.Arguments

/-!
# Responses and transports

A response gives a result when its status is expected: its body or, for a long-running operation, what the path of
the result leads to.

A transport answers requests and keeps a state between them. A finite one has only so many responses left, which
bounds every loop that goes on as long as responses come. A `Script` is a finite transport that replays responses in
order and remembers the requests.
-/

/-! ## The result of a call -/

namespace ClientGen.Call

def follow? : List String → Json → Option Json
  | [], j => some j
  | name :: rest, j => (j.get? name).bind (follow? rest)

def extract (body : Json) (path : List String) : Except CallError Json :=
  match follow? path body with
  | some j => .ok j
  | none => .error (.missingResultPath (Text.joined "." path))

/-- The path of the result of an operation; empty for all of the body. -/
def resultPath (op : Plan.Operation) : List String :=
  match op.longRunning with
  | some l => l.resultPath
  | none => []

def deserialize (op : Plan.Operation) (r : Response) : Except CallError Json :=
  if op.expectedStatuses.contains (toString r.status) then extract r.body (resultPath op)
  else .error (.unexpectedStatus r.status op.expectedStatuses r.body)

/-! ## Transports -/

abbrev Transport (τ : Type) := Request → τ → Except CallError Response × τ

/-- A transport that cannot answer for ever. -/
structure FiniteTransport (τ : Type) where
  send : Transport τ
  /-- A bound for the number of responses that are left. -/
  remaining : τ → Nat
  /-- A response is one less for later. -/
  remaining_lt : ∀ {request state response next},
    send request state = (.ok response, next) → remaining next < remaining state
  /-- A failure brings no responses. -/
  remaining_le : ∀ {request state error next},
    send request state = (.error error, next) → remaining next ≤ remaining state

structure Script where
  responses : List Response
  requests : List Request

namespace Script

def ofResponses (responses : List Response) : Script := ⟨responses, []⟩

def push (s : Script) (r : Response) : Script := { s with responses := s.responses ++ [r] }

def remaining (s : Script) : Nat := s.responses.length

def send : Transport Script := fun request s =>
  match s.responses with
  | [] => (.error (.transportExhausted request.method request.url), ⟨[], s.requests ++ [request]⟩)
  | response :: rest => (.ok response, ⟨rest, s.requests ++ [request]⟩)

theorem send_nil (request : Request) (requests : List Request) :
    send request ⟨[], requests⟩ =
      (.error (.transportExhausted request.method request.url), ⟨[], requests ++ [request]⟩) := rfl

theorem send_cons (request : Request) (response : Response) (rest : List Response) (requests : List Request) :
    send request ⟨response :: rest, requests⟩ = (.ok response, ⟨rest, requests ++ [request]⟩) := rfl

def transport : FiniteTransport Script where
  send := send
  remaining := remaining
  remaining_lt {request state response next} h := by
    obtain ⟨responses, requests⟩ := state
    cases responses with
    | nil => simp [send_nil] at h
    | cons r rest =>
      rw [send_cons, Prod.mk.injEq] at h
      simp [← h.2, remaining]
  remaining_le {request state error next} h := by
    obtain ⟨responses, requests⟩ := state
    cases responses with
    | nil =>
      rw [send_nil, Prod.mk.injEq] at h
      simp [← h.2, remaining]
    | cons r rest => simp [send_cons] at h

end Script

end ClientGen.Call
