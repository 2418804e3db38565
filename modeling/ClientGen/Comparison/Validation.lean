import ClientGen.Build.Package
import ClientGen.Comparison.Differences

/-!
# Validation

A model is generated once with the declarative way switched on and once with it switched off, and the outputs are
compared. A file of the first run for which the baseline had to step in counts as a difference too.
-/

namespace ClientGen

structure ValidationResult where
  name : String
  passed : Bool
  primaryOutput : String
  baselineOutput : String
  differences : List String
  error : Option String
  deriving DecidableEq, Repr

namespace ValidationResult

def toJson (r : ValidationResult) : Json :=
  .object
    [("testName", .string r.name), ("passed", .bool r.passed), ("primaryOutput", .string r.primaryOutput),
     ("baselineOutput", .string r.baselineOutput), ("differences", .ofStrings r.differences),
     ("error", .ofOption .string r.error)]

def ofError (name : String) (e : BuildError) : ValidationResult := ⟨name, false, "", "", [], some e.message⟩

def output (files : List Emitted) : String := Text.joined "\n" (files.map fun e => e.file.content)

def fallbacks (files : List Emitted) : List String :=
  (files.filter fun e => e.via ≠ .declarative).map fun e =>
    "declarative path fell back to the baseline for `" ++ e.file.path ++ "`"

def ofRuns (name : String) (primary baseline : List Emitted) : ValidationResult :=
  let differences := fallbacks primary ++ Comparison.differences (output primary) (output baseline)
  ⟨name, differences.isEmpty, output primary, output baseline, differences, none⟩

end ValidationResult

structure Validator (σ : Type) where
  policy : RetryPolicy
  declarative : Emitter σ
  baseline : Emitter σ

namespace Validator

variable {σ : Type}

/-- The builder for a model with all switches set one way, whatever the model or the environment says. -/
def builder (v : Validator σ) (m : Service.Model) (enabled : Bool) : Builder σ :=
  let m := m.withSwitches (.forced enabled)
  ⟨m, Flags.resolve m.options.switches fun _ => none, v.policy, v.declarative, v.baseline⟩

def generate (v : Validator σ) (m : Service.Model) (enabled : Bool) (s : σ) :
    Except BuildError (List Emitted) × σ :=
  let (files, _, s) := (v.builder m enabled).sources .empty s
  (files, s)

def validate (v : Validator σ) (name : String) (m : Service.Model) (s : σ) : ValidationResult × σ :=
  let (primary, s) := v.generate m true s
  let (baseline, s) := v.generate m false s
  match primary, baseline with
  | .ok primary, .ok baseline => (.ofRuns name primary baseline, s)
  | .error e, _ => (.ofError name e, s)
  | _, .error e => (.ofError name e, s)

def validateAll (v : Validator σ) : List (String × Service.Model) → σ → List ValidationResult × σ
  | [], s => ([], s)
  | (name, m) :: rest, s =>
    let (result, s) := v.validate name m s
    let (results, s) := validateAll v rest s
    (result :: results, s)

end Validator

structure ValidationSummary where
  results : List ValidationResult
  deriving DecidableEq, Repr

namespace ValidationSummary

def total (s : ValidationSummary) : Nat := s.results.length

def passed (s : ValidationSummary) : Nat := s.results.countP (·.passed)

def failed (s : ValidationSummary) : Nat := s.results.countP (!·.passed)

def success (s : ValidationSummary) : Bool := s.failed == 0

def toJson (s : ValidationSummary) : Json :=
  .object
    [("totalTests", .int s.total), ("passedTests", .int s.passed), ("failedTests", .int s.failed),
     ("overallSuccess", .bool s.success), ("results", .array (s.results.map ValidationResult.toJson))]

end ValidationSummary

end ClientGen
