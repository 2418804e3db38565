import ClientGen.Plan.ClientDefinitions
import ClientGen.Plan.Manifest

/-!
# Parts of a package

A part is a file of the package that is planned and not yet emitted. An emitter turns a part into a file or fails; it
may keep a state over its calls.
-/

namespace ClientGen

namespace Plan

inductive Part where
  | packageJson (manifest : Manifest)
  | clientDefinitions (definitions : ClientDefinitions)
  | clientClass (cls : ClientClass)
  | operationFile (file : OperationFile)

namespace Part

def target : Part → Target
  | .packageJson _ => .packageJson
  | .clientDefinitions _ => .clientDefinitions
  | .clientClass _ => .clientClass
  | .operationFile _ => .operationFunctions

def path : Part → String
  | .packageJson m => m.path
  | .clientDefinitions d => d.path
  | .clientClass c => c.path
  | .operationFile f => f.path

/-- The context in which a part is emitted: each operation has one of its own. -/
def context : Part → String
  | .operationFile f => "operationFunction:" ++ f.operation.name
  | p => p.target.name

end Part

def operationParts (m : Service.Model) (ops : List Operation) : List Part :=
  ops.map fun op => .operationFile (operationFile m op)

/-- The files of source code, in the order in which they are emitted. -/
def sourceParts (m : Service.Model) (ops : List Operation) : List Part :=
  .clientDefinitions (clientDefinitions m ops) :: .clientClass (clientClass m ops) :: operationParts m ops

def parts (m : Service.Model) (ops : List Operation) : List Part :=
  .packageJson (manifest m) :: sourceParts m ops

end Plan

inductive EmitError where
  | render (message : String)
  | template (message : String)
  | unresolvedReference (key : String)
  | missingModule (name : String)
  | other (message : String)
  deriving DecidableEq, Repr

def EmitError.message : EmitError → String
  | .render message => "render failed: " ++ message
  | .template message => "template error: " ++ message
  | .unresolvedReference key => "unresolved reference: " ++ key
  | .missingModule name => "cannot find module `" ++ name ++ "`"
  | .other message => message

/-- A computation that may fail to emit and that works on a state. -/
abbrev Attempt (σ α : Type) := σ → Except EmitError α × σ

/-- A way to emit parts, with a state over its calls. -/
abbrev Emitter (σ : Type) := Plan.Part → Attempt σ GeneratedFile

/-- A way to emit parts that depends on nothing but the part. -/
abbrev PureEmitter := Plan.Part → Except EmitError GeneratedFile

namespace Attempt

variable {σ ρ α : Type}

def onFirst (a : Attempt σ α) : Attempt (σ × ρ) α := fun (s, r) =>
  let (result, s) := a s
  (result, s, r)

def onSecond (a : Attempt ρ α) : Attempt (σ × ρ) α := fun (s, r) =>
  let (result, r) := a r
  (result, s, r)

end Attempt

def PureEmitter.lift {σ : Type} (e : PureEmitter) : Emitter σ := fun part s => (e part, s)

end ClientGen
