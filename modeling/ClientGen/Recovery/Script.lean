import ClientGen.Recovery.Run

/-!
# Scripts

What is to happen is laid down beforehand: the results of an attempt, call by call, or the runs and resets of what keeps
the counters.
-/

namespace ClientGen

variable {σ α : Type}

/-! ## Scripted attempts -/

/-- The result of call number `n`, counted from zero. When the results run out the last one stays; `success` stands where
no results are given. -/
def scriptedResult (success : α) (results : List (Except EmitError α)) (n : Nat) : Except EmitError α :=
  (results[n]? <|> results.getLast?).getD (.ok success)

/-- Follows a script; the state is the number of calls so far. -/
def scripted (success : α) (results : List (Except EmitError α)) : Attempt Nat α := fun n =>
  (scriptedResult success results n, n + 1)

/-! ## Runs and resets in order -/

namespace Recovery

/-- A call of what keeps the counters. -/
inductive Call (σ : Type) where
  | reset
  | run {α : Type} (context : String) (enabled : Bool) (primary baseline : Attempt σ α)

/-- The counters and the state of both ways after a call. -/
def perform (policy : RetryPolicy) (st : Counters × σ) : Call σ → Counters × σ
  | .reset => (.empty, st.2)
  | .run context enabled primary baseline => (run policy context enabled primary baseline st.1 st.2).2

/-- Calls one after the other. -/
def performAll (policy : RetryPolicy) (st : Counters × σ) (calls : List (Call σ)) : Counters × σ :=
  calls.foldl (perform policy) st

end Recovery

end ClientGen
