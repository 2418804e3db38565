import ClientGen.Plan.Part
import ClientGen.Text.Basic
import ClientGen.Text.LetterCase

/-!
# Outcomes

A failure is put into a category by what its message says. Categories are advice for a reader; nothing is decided by
them.

What a run with a baseline to fall back to comes to: something made in one of two ways, with a report if the primary
way failed, or the error of the baseline.
-/

/-! ## Categories of failures -/

namespace ClientGen

inductive FailureCategory where
  | frameworkRuntime
  | moduleResolution
  | typeMismatch
  | renderFailure
  | unknown
  deriving DecidableEq, Repr

namespace FailureCategory

def name : FailureCategory → String
  | .frameworkRuntime => "frameworkRuntime"
  | .moduleResolution => "moduleResolution"
  | .typeMismatch => "typeMismatch"
  | .renderFailure => "renderFailure"
  | .unknown => "unknown"

def suggestedAction : FailureCategory → String
  | .frameworkRuntime => "retry_with_fallback_markup"
  | .moduleResolution => "retry_with_alternative_imports"
  | .typeMismatch => "retry_with_type_assertion"
  | .renderFailure => "fallback_to_baseline"
  | .unknown => "fallback_to_baseline"

/-- Something other than the baseline may help. -/
def canRecover : FailureCategory → Bool
  | .frameworkRuntime => true
  | .moduleResolution => true
  | .typeMismatch => true
  | .renderFailure => false
  | .unknown => false

/-- The first category whose words a message holds. Most words count in either case, names only as they are. -/
def ofMessage (message : String) : FailureCategory :=
  let has := Text.contains (Text.lowerAscii message)
  let spells := Text.contains message
  if has "jsx" || spells "React" || has "markup" then .frameworkRuntime
  else if has "cannot find module" || has "unresolved reference" || has "import" then .moduleResolution
  else if (spells "Property" && spells "does not exist") || has "type mismatch" then .typeMismatch
  else if has "render" || has "component" then .renderFailure
  else .unknown

end FailureCategory

/-! ## Outcomes -/

inductive RecoveryState where
  | notAttempted
  | attempting
  | succeeded
  | failed
  | fallingBack
  | succeededViaBaseline
  deriving DecidableEq, Repr

def RecoveryState.name : RecoveryState → String
  | .notAttempted => "notAttempted"
  | .attempting => "attempting"
  | .succeeded => "succeeded"
  | .failed => "failed"
  | .fallingBack => "fallingBack"
  | .succeededViaBaseline => "succeededViaBaseline"

structure FailureReport where
  context : String
  attempts : Nat
  message : String
  category : FailureCategory
  deriving DecidableEq, Repr

namespace FailureReport

def ofError (context : String) (attempts : Nat) (e : EmitError) : FailureReport :=
  ⟨context, attempts, e.message, .ofMessage e.message⟩

def toJson (r : FailureReport) : Json :=
  .object
    [("context", .string r.context), ("attempts", .int r.attempts), ("message", .string r.message),
     ("category", .string r.category.name), ("suggestedAction", .string r.category.suggestedAction),
     ("canRecover", .bool r.category.canRecover)]

end FailureReport

structure Outcome (α : Type) where
  value : α
  via : Via
  attempts : Nat
  state : RecoveryState
  failure : Option FailureReport
  deriving DecidableEq, Repr

inductive BuildError where
  /-- The model itself is faulty; no way of emitting can help. -/
  | model (fault : ModelFault)
  /-- There is nothing left to fall back to. -/
  | baseline (context : String) (error : EmitError)
  deriving DecidableEq, Repr

def BuildError.message : BuildError → String
  | .model fault => "invalid service model: " ++ fault.message
  | .baseline context e => "baseline generator failed for `" ++ context ++ "`: " ++ e.message

end ClientGen
