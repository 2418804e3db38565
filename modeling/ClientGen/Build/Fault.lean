import ClientGen.Plan.Part

/-!
# Emitters with faults

An emitter can be given a fault, to see how a build copes: its first calls fail, and what it emits can be changed.
-/

namespace ClientGen

structure Fault where
  failures : Nat
  /-- The operation whose file alone is affected, if not every call is. -/
  operation : Option String
  error : EmitError
  addition : String
  deriving DecidableEq, Repr

namespace Fault

def defaultError : EmitError := .missingModule "@alloy-js/core"

def affects (f : Fault) (part : Plan.Part) : Bool :=
  match f.operation, part with
  | none, _ => true
  | some name, .operationFile file => file.operation.name == name
  | some _, _ => false

def change (f : Fault) (part : Plan.Part) (file : GeneratedFile) : GeneratedFile :=
  match part with
  | .clientClass _ => { file with content := file.content ++ f.addition }
  | _ => file

/-- An emitter with the fault; the state is the number of calls that were counted. -/
def inject (f : Fault) (e : PureEmitter) : Emitter Nat := fun part calls =>
  if f.affects part then
    if calls < f.failures then (.error f.error, calls + 1) else ((e part).map (f.change part), calls + 1)
  else ((e part).map (f.change part), calls)

end Fault

def PureEmitter.withFault (e : PureEmitter) : Option Fault → Emitter Nat
  | some f => f.inject e
  | none => e.lift

end ClientGen
