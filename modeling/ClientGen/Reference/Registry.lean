import ClientGen.Service.Model

/-!
# References and their registry

A key stands for a declaration of the generated code. It is made from the kind of the declaration and its name parts
alone, so that whoever asks for the same declaration gets the same key.

A registry keeps keys under composite texts, in order of registration. A `Generation` carries a service model together
with the registry of the keys that were made for it.
-/

/-! ## Reference keys -/

namespace ClientGen

inductive Reference.Kind where
  | client
  | clientClass
  | clientInterface
  | operation
  | operationFunction
  | sendFunction
  | deserializeFunction
  | parameter
  | type
  | model
  | route
  | pipeline
  deriving DecidableEq, Repr

/-- A kind with name parts, the scope first and the name last. -/
structure Reference where
  kind : Reference.Kind
  parts : List String
  deriving DecidableEq, Repr

namespace Reference

namespace Kind

def all : List Kind :=
  [.client, .clientClass, .clientInterface, .operation, .operationFunction, .sendFunction, .deserializeFunction,
   .parameter, .type, .model, .route, .pipeline]

def name : Kind → String
  | .client => "client"
  | .clientClass => "clientClass"
  | .clientInterface => "clientInterface"
  | .operation => "operation"
  | .operationFunction => "operationFunction"
  | .sendFunction => "sendFunction"
  | .deserializeFunction => "deserializeFunction"
  | .parameter => "parameter"
  | .type => "type"
  | .model => "model"
  | .route => "route"
  | .pipeline => "pipeline"

def rank (k : Kind) : Nat := all.idxOf k

end Kind

def colonParts : List String → String
  | [] => ""
  | part :: rest => ":" ++ part ++ colonParts rest

/-- The text `kind:scope:name` of a key. -/
def composite (r : Reference) : String := r.kind.name ++ colonParts r.parts

/-- Keys are ordered by kind, then by their parts. -/
def compare (a b : Reference) : Ordering :=
  (Ord.compare a.kind.rank b.kind.rank).then (Ord.compare a.parts b.parts)

def client (name : String) : Reference := ⟨.client, [name]⟩

def clientClass (name : String) : Reference := ⟨.clientClass, [name]⟩

def clientInterface (name : String) : Reference := ⟨.clientInterface, [name]⟩

def operation (name : String) : Reference := ⟨.operation, [name]⟩

def operationFunction (name : String) : Reference := ⟨.operationFunction, [name]⟩

def sendFunction (name : String) : Reference := ⟨.sendFunction, [name]⟩

def deserializeFunction (name : String) : Reference := ⟨.deserializeFunction, [name]⟩

def parameter (scope name : String) : Reference := ⟨.parameter, [scope, name]⟩

def type (name : String) : Reference := ⟨.type, [name]⟩

def model (name : String) : Reference := ⟨.model, [name]⟩

def pipeline (name : String) : Reference := ⟨.pipeline, [name]⟩

end Reference

/-! ## The registry of a generation -/

/-- Keys by text; registering a text again replaces its key in place. -/
abbrev Registry := Dict String Reference

structure Generation where
  model : Service.Model
  registry : Registry

namespace Generation

def ofModel (model : Service.Model) : Generation := ⟨model, .empty⟩

def register (g : Generation) (key : Reference) : Generation :=
  { g with registry := g.registry.insert key.composite key }

def clientKey (g : Generation) : Reference := .client g.model.clientName

def createClient (g : Generation) : Generation := g.register g.clientKey

def createOperation (g : Generation) (op : Service.Operation) : Generation := g.register (.operation op.name)

def createOperations (g : Generation) : Generation :=
  g.model.operations.foldl (fun g (_, _, op) => g.createOperation op) g

def operationKeys (g : Generation) : Dict String Reference :=
  .ofList (g.model.operations.map fun (_, _, op) => (op.name, .operation op.name))

def lookup (g : Generation) (composite : String) : Option Reference := g.registry.get? composite

def clear (g : Generation) : Generation := { g with registry := .empty }

end Generation

end ClientGen
