import ClientGen.Recovery.Outcome

/-!
# Runs

A run tries the primary way of making something a number of times and then falls back to the baseline. It happens in
a named context, and a context in which runs failed too often goes to the baseline at once.

A policy says how often the primary way is tried, how often that may end in failure before it is passed over, and how
long to wait between tries. Counters keep what is remembered of the runs so far, by context: how many of them in a row
failed, where the context is and what kind of failure was the last one.
-/

/-! ## Retry policies -/

namespace ClientGen

structure RetryPolicy where
  maxAttempts : Nat
  /-- How many runs may fail in a context before the declarative way is passed over there. -/
  fallbackThreshold : Nat
  baseDelay : Nat
  deriving DecidableEq, Repr

namespace RetryPolicy

def default : RetryPolicy := ⟨3, 5, 100⟩

/-- How often a way is tried in one run; at least once. -/
def attempts (p : RetryPolicy) : Nat := max p.maxAttempts 1

/-- The longest delay: the last millisecond of second `2 ^ 64 - 1`. -/
def longestDelay : Nat := (Nat.pow 2 64 - 1) * 1000 + 999

/-- The delay in milliseconds after a failed attempt, counted from one. It doubles sixteen times at most. -/
def delayAfter (p : RetryPolicy) (attempt : Nat) : Nat :=
  min (p.baseDelay * Nat.pow 2 (min (attempt - 1) 16)) longestDelay

end RetryPolicy

/-! ## Counters -/

structure Counters where
  /-- How many runs ended with the primary way failing, since it last succeeded. -/
  errors : Dict String Nat
  states : Dict String RecoveryState
  categories : Dict String FailureCategory
  deriving DecidableEq

namespace Counters

def empty : Counters := ⟨.empty, .empty, .empty⟩

def state (c : Counters) (context : String) : RecoveryState :=
  (c.states.get? context).getD .notAttempted

def errorCount (c : Counters) (context : String) : Nat :=
  (c.errors.get? context).getD 0

/-- The sum of the counters in 32 bits, which wraps around. -/
def totalErrors (c : Counters) : UInt32 := c.errors.values.foldl (fun total n => total + .ofNat n) 0

def enter (c : Counters) (context : String) (s : RecoveryState) : Counters :=
  { c with states := c.states.insert context s }

def succeed (c : Counters) (context : String) : Counters :=
  { c with errors := c.errors.insert context 0 }.enter context .succeeded

def fail (c : Counters) (context : String) (category : FailureCategory) : Counters :=
  { c.enter context .failed with
    errors := c.errors.update context fun n => n.getD 0 + 1
    categories := c.categories.insert context category }

end Counters

def Counters.statistics (c : Counters) (policy : RetryPolicy) : Json :=
  .object
    [("totalErrors", .int c.totalErrors.toNat),
     ("errorsByContext", .object (c.errors.entries.map fun (context, n) => (context, .int n))),
     ("categoriesByContext", .object (c.categories.entries.map fun (context, k) => (context, .string k.name))),
     ("fallbackThreshold", .int policy.fallbackThreshold), ("maxRetries", .int policy.maxAttempts)]

/-! ## Runs -/

variable {σ α : Type}

/-- Tries up to `n + 1` times; `count` is the number of the first try. Gives the number of the try that succeeded, or
the last error. -/
def retry (primary : Attempt σ α) : Nat → Nat → Attempt σ (α × Nat)
  | 0, count, s => match primary s with
    | (.ok a, s) => (.ok (a, count), s)
    | (.error e, s) => (.error e, s)
  | n + 1, count, s => match primary s with
    | (.ok a, s) => (.ok (a, count), s)
    | (.error _, s) => retry primary n (count + 1) s

/-- The same, with the waits between tries put on record in milliseconds. After the last try there is none. -/
def retryWaiting (policy : RetryPolicy) (primary : Attempt σ α) : Nat → Nat → Attempt (σ × List Nat) (α × Nat)
  | 0, count, (s, waits) => match primary s with
    | (.ok a, s) => (.ok (a, count), s, waits)
    | (.error e, s) => (.error e, s, waits)
  | n + 1, count, (s, waits) => match primary s with
    | (.ok a, s) => (.ok (a, count), s, waits)
    | (.error _, s) => retryWaiting policy primary n (count + 1) (s, waits ++ [policy.delayAfter count])

/-- Something made under counters that remember earlier runs. -/
abbrev Guarded (σ α : Type) := Counters → σ → Except BuildError α × Counters × σ

namespace Recovery

/-- Goes to the baseline without a word about it. -/
def withoutPrimary (context : String) (baseline : Attempt σ α) : Guarded σ (Outcome α) := fun c s =>
  match baseline s with
  | (.error e, s) => (.error (.baseline context e), c, s)
  | (.ok a, s) => (.ok ⟨a, .baseline, 0, c.state context, none⟩, c, s)

def fallBack (context : String) (attempts : Nat) (failure : Option FailureReport) (baseline : Attempt σ α) :
    Guarded σ (Outcome α) := fun c s =>
  let c := c.enter context .fallingBack
  match baseline s with
  | (.error e, s) => (.error (.baseline context e), c, s)
  | (.ok a, s) =>
    (.ok ⟨a, .baseline, attempts, .succeededViaBaseline, failure⟩, c.enter context .succeededViaBaseline, s)

/-- Tries the primary way, then goes to the baseline. -/
def withPrimary (policy : RetryPolicy) (context : String) (primary baseline : Attempt σ α) :
    Guarded σ (Outcome α) := fun c s =>
  match retry primary (policy.attempts - 1) 1 s with
  | (.ok (a, attempts), s) => (.ok ⟨a, .declarative, attempts, .succeeded, none⟩, c.succeed context, s)
  | (.error e, s) =>
    let report := FailureReport.ofError context policy.attempts e
    fallBack context policy.attempts (some report) baseline (c.fail context report.category) s

def run (policy : RetryPolicy) (context : String) (enabled : Bool) (primary baseline : Attempt σ α) :
    Guarded σ (Outcome α) := fun c s =>
  if !enabled then withoutPrimary context baseline c s
  else if policy.fallbackThreshold ≤ c.errorCount context then fallBack context 0 none baseline c s
  else withPrimary policy context primary baseline (c.enter context .attempting) s

end Recovery

end ClientGen
