import ClientGen.Recovery.Run
import ClientGen.Reference.Registry

/-!
# Building

A builder emits the parts of a package for one model. The flags say for which targets the declarative emitter is
tried; where it is not, or fails, the baseline emits the same part.

A complete package has every part of the plan. The keys of the client and its operations are registered first, in
place of those of an earlier build.
-/

/-! ## Building files -/

namespace ClientGen

structure Emitted where
  file : GeneratedFile
  target : Target
  via : Via
  attempts : Nat
  deriving DecidableEq, Repr

structure Builder (σ : Type) where
  model : Service.Model
  flags : Flags
  policy : RetryPolicy
  declarative : Emitter σ
  baseline : Emitter σ

namespace Builder

variable {σ : Type}

def build (b : Builder σ) (part : Plan.Part) : Guarded σ Emitted := fun c s =>
  let (outcome, c, s) :=
    Recovery.run b.policy part.context (b.flags.enabledFor part.target) (b.declarative part) (b.baseline part) c s
  (outcome.map fun o => ⟨o.value, part.target, o.via, o.attempts⟩, c, s)

/-- Builds parts in order, up to the first error. -/
def buildAll (b : Builder σ) : List Plan.Part → Guarded σ (List Emitted)
  | [], c, s => (.ok [], c, s)
  | part :: rest, c, s => match b.build part c s with
    | (.error e, c, s) => (.error e, c, s)
    | (.ok file, c, s) =>
      let (files, c, s) := buildAll b rest c s
      (files.map (file :: ·), c, s)

def withOperations {α : Type} (b : Builder σ) (f : List Plan.Operation → Guarded σ α) : Guarded σ α := fun c s =>
  match Plan.operations b.model with
  | .error fault => (.error (.model fault), c, s)
  | .ok ops => f ops c s

def packageJson (b : Builder σ) : Guarded σ Emitted := b.build (.packageJson (Plan.manifest b.model))

def clientDefinitions (b : Builder σ) : Guarded σ Emitted :=
  b.withOperations fun ops => b.build (.clientDefinitions (Plan.clientDefinitions b.model ops))

def clientClass (b : Builder σ) : Guarded σ Emitted :=
  b.withOperations fun ops => b.build (.clientClass (Plan.clientClass b.model ops))

def operationFunctions (b : Builder σ) : Guarded σ (List Emitted) :=
  b.withOperations fun ops => b.buildAll (Plan.operationParts b.model ops)

def sources (b : Builder σ) : Guarded σ (List Emitted) :=
  b.withOperations fun ops => b.buildAll (Plan.sourceParts b.model ops)

end Builder

/-! ## Building packages -/

structure Package where
  files : List Emitted
  deriving DecidableEq, Repr

namespace Package

def contents (p : Package) : Dict String String :=
  .ofList (p.files.map fun e => (e.file.path, e.file.content))

def reportLine (e : Emitted) : Json :=
  .object
    [("path", .string e.file.path), ("target", .string e.target.name), ("via", .string e.via.name),
     ("attempts", .int e.attempts)]

def report (p : Package) : Json := .array (p.files.map reportLine)

def usedBaseline (p : Package) : Bool := p.files.any fun e => e.via == .baseline

end Package

/-- What changes while a builder works: the registered keys, the counters, and the state of the emitters. -/
structure Progress (σ : Type) where
  registry : Registry
  counters : Counters
  emitters : σ

namespace Builder

variable {σ α : Type}

def references (b : Builder σ) : Registry :=
  (Generation.ofModel b.model).createClient.createOperations.registry

/-- Registers the keys of the model and no others. -/
def register (b : Builder σ) (p : Progress σ) : Progress σ := { p with registry := b.references }

def advance (f : Guarded σ α) (p : Progress σ) : Except BuildError α × Progress σ :=
  let (result, counters, emitters) := f p.counters p.emitters
  (result, { p with counters, emitters })

/-- Builds all parts. A faulty model changes nothing. -/
def complete (b : Builder σ) (p : Progress σ) : Except BuildError Package × Progress σ :=
  match Plan.operations b.model with
  | .error fault => (.error (.model fault), p)
  | .ok ops =>
    let (files, p) := advance (b.buildAll (Plan.parts b.model ops)) (b.register p)
    (files.map Package.mk, p)

end Builder

end ClientGen
