import ClientGen.Proofs.Recovery.Run
import ClientGen.Recovery.Script
import Mathlib.Data.List.DropRight

/-!
# The counters and what happened

A sequence of runs and resets is watched from outside: for each run it is written down how every single try of the
primary way ended. The counter of a context can then be read off what was written down. It is the number of runs that
used up their tries since the context was last cleared, by a success or by a reset.
-/

namespace ClientGen

variable {σ α : Type}

/-! ## Watching tries -/

namespace Recovery

variable {policy : RetryPolicy} {context : String} {enabled : Bool} {primary baseline : Attempt σ α}

/-- What is seen of a call: for a run, how each of its tries ended. -/
inductive Sight where
  | reset
  | run (context : String) (tries : List Bool)
  deriving DecidableEq, Repr

namespace Sight

/-- The context is cleared: by a reset, or by a run in which the primary way succeeded. -/
def clears (context : String) : Sight → Bool
  | .reset => true
  | .run context' tries => context' == context && tries.contains true

/-- A run of the context in which every try failed, and there were some. -/
def exhausts (context : String) : Sight → Bool
  | .reset => false
  | .run context' tries => context' == context && !tries.isEmpty && !tries.contains true

end Sight

/-- The number of runs of a context that used up their tries since it was last cleared. -/
def failuresSince (context : String) (seen : List Sight) : Nat :=
  (seen.rtakeWhile fun o => !o.clears context).countP (Sight.exhausts context)

/-- What is known of counters after everything that was seen. -/
structure Sound (policy : RetryPolicy) (seen : List Sight) (c : Counters) : Prop where
  count : ∀ context, c.errorCount context = failuresSince context seen
  bounded : ∀ context, c.errorCount context ≤ policy.fallbackThreshold
  succeeded : ∀ context, c.state context = .succeeded → c.errorCount context = 0

end Recovery

end ClientGen
