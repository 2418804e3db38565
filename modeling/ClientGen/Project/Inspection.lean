import ClientGen.Plan.Operation
import ClientGen.Recovery.Run
import ClientGen.Service.Decode
import ClientGen.Service.Model
import ClientGen.Text.Basic

/-!
# Projects

A project file says where the model is, where the package goes, which switches are set and how often to retry. Every
member has a default.

A summary of what would be generated from a model: the flags that hold, what the model lacks, and the operations.
-/

/-! ## Project files -/

namespace ClientGen.Project

def configFile : String := ".rlc.yaml"

structure Config where
  input : String
  output : String
  /-- Switches that are laid over those of the model. -/
  emission : Switches
  retry : RetryPolicy
  deriving DecidableEq, Repr

namespace Config

def default : Config := ⟨"service-model.yaml", "generated", .unset, .default⟩

variable {α : Type} [Readable α]

def below? (limit : Nat) (v : α) : Option Nat :=
  (Readable.natural? v).filter fun n => n < limit

def retryFields : List Record.Field :=
  [("max_attempts", []), ("fallback_threshold", []), ("base_delay_ms", [])]

def retry? (v : α) : Option RetryPolicy := do
  let r ← Record.named? retryFields v
  some
    { maxAttempts := ← r.withDefault "max_attempts" (below? (Nat.pow 2 32)) RetryPolicy.default.maxAttempts
      fallbackThreshold :=
        ← r.withDefault "fallback_threshold" (below? (Nat.pow 2 32)) RetryPolicy.default.fallbackThreshold
      baseDelay := ← r.withDefault "base_delay_ms" (below? (Nat.pow 2 64)) RetryPolicy.default.baseDelay }

def read? (v : α) : Option Config := do
  let r ← Record.named? [("input", []), ("output", []), ("emission", []), ("retry", [])] v
  some
    { input := ← r.withDefault "input" Readable.text? default.input
      output := ← r.withDefault "output" Readable.text? default.output
      emission := ← r.withDefault "emission" Switches.read? default.emission
      retry := ← r.withDefault "retry" retry? default.retry }

def visit : Yaml.Visit :=
  .record
    [("input", .single), ("output", .single), ("emission", Record.visit Switches.fields),
     ("retry", Record.visit retryFields)]

def ofText? (s : String) : Option Config :=
  (Yaml.Document.ofText? s).bind fun d => (d.visited? visit).bind read?

def defaultText : String :=
  Text.unlines
    ["# rlc configuration",
     "input: service-model.yaml",
     "output: generated",
     "",
     "# Emission switches. Unset values fall back to the model's options, then to",
     "# the TYPESPEC_USE_ALLOY_* environment variables, then to false.",
     "#   use_alloy_code_generation: true",
     "#   use_alloy_package_json: false",
     "#   client_class: true",
     "#   client_interface: true",
     "#   operation_function: true",
     "emission: \x7b\x7d",
     "",
     "retry:",
     "  max_attempts: 3          # declarative attempts before falling back",
     "  fallback_threshold: 5    # exhausted fallbacks per context before skipping the declarative path",
     "  base_delay_ms: 100       # backoff doubles after each failed attempt"]

end Config

/-- The flags for a model: its own switches under those of the project under those of the command line, then the
environment. -/
def flagsFor (m : Service.Model) (config : Config) (command : Switches) (env : Environment) : Flags :=
  Flags.resolve ((m.options.switches.overlay config.emission).overlay command) env

/-! ## Inspection -/

def inspectOperation (op : Plan.Operation) : Json :=
  .object
    [("name", .string op.name), ("method", .string op.method.name), ("path", .string op.path),
     ("group", .ofOption .string op.group), ("kind", .string op.kind.name), ("returnType", .string op.returnType),
     ("parameters", .ofStrings (op.parameters.map Plan.Parameter.signature))]

def inspect (m : Service.Model) (config : Config) (env : Environment) : Except ModelFault Json := do
  let ops ← Plan.operations m
  .ok (.object
    [("client", .string m.clientName), ("srcPath", .string m.sourcePath),
     ("flags", (flagsFor m config .unset env).toJson), ("prerequisites", m.prerequisites.toJson),
     ("operations", .array (ops.map inspectOperation))])

end ClientGen.Project
