import ClientGen.Json.Basic
import ClientGen.Plan.OperationFile
import ClientGen.Text.Basic
import ClientGen.Text.Words

/-!
# The client class

The names that a generated client is known by all come from one base: the client's name without `Client` at its end.

The class holds the context and has a method for every operation. Its constructor takes the parameters that
operations bind at the client, each name once.
-/

/-! ## Names of a client -/

namespace ClientGen.Plan

structure ClientNames where
  base : String
  className : String
  contextType : String
  factoryName : String
  optionalParamsType : String
  deriving DecidableEq, Repr

/-- A type name without `Client` at its end, unless it is nothing else. -/
def clientBase (name : String) : String :=
  match Text.before? "Client" name with
  | some base => if base = "" then name else base
  | none => name

namespace ClientNames

def ofName (name : String) : ClientNames :=
  let base := clientBase (Text.pascal name)
  { base := base
    className := base ++ "Client"
    contextType := base ++ "Context"
    factoryName := "create" ++ base
    optionalParamsType := base ++ "ClientOptionalParams" }

def toJson (n : ClientNames) : Json :=
  .object
    [("base", .string n.base), ("className", .string n.className), ("contextType", .string n.contextType),
     ("factoryName", .string n.factoryName), ("optionalParamsType", .string n.optionalParamsType)]

end ClientNames

/-! ## The client class -/

structure ClientClass where
  path : String
  names : ClientNames
  clientParameters : List Parameter
  operations : List Operation
  imports : Imports
  deriving DecidableEq

def distinctParameters (ps : List Parameter) : List Parameter :=
  ps.foldl (fun seen p => if seen.any fun q => q.name == p.name then seen else seen ++ [p]) []

def addReturnImports (ops : List Operation) (i : Imports) : Imports :=
  let i := if ops.any fun op => op.kind == .longRunning then
    i.addAll longRunningLibrary ["OperationState", "PollerLike"] else i
  if ops.any fun op => op.kind == .paging then i.add FromSource.pagingHelpers "PagedAsyncIterableIterator" else i

def addOptionsTypes (ops : List Operation) (i : Imports) : Imports :=
  ops.foldl (fun i op => i.addKeyed FromSource.options op.optionsType (.type op.optionsType)) i

def addSignatureModels (ops : List Operation) (i : Imports) : Imports :=
  ops.foldl
    (fun i op => (addParameterModels FromSource.models op.parameters i).addModels FromSource.models op.returnType) i

def addOperationFunctions (ops : List Operation) (i : Imports) : Imports :=
  ops.foldl (fun i op => i.addKeyed (FromSource.operation op.name) op.name op.functionKey) i

def addClientNames (names : ClientNames) (i : Imports) : Imports :=
  ((i.addKeyed FromSource.apiIndex names.factoryName (.client names.base)).addKeyed FromSource.apiIndex
    names.contextType (.type names.contextType)).addKeyed FromSource.apiIndex names.optionalParamsType
      (.type names.optionalParamsType)

def classImports (names : ClientNames) (ops : List Operation) (clientParameters : List Parameter) : Imports :=
  let i := addReturnImports ops (Imports.empty.add httpRuntime "Pipeline")
  let i := addOptionsTypes ops (addOperationFunctions ops (addClientNames names i))
  clientParameters.foldl (fun i p => i.addModels FromSource.models p.type) (addSignatureModels ops i)

def clientClass (m : Service.Model) (ops : List Operation) : ClientClass :=
  let names := ClientNames.ofName m.clientName
  let clientParameters := distinctParameters (ops.flatMap Operation.clientParameters)
  { path := m.sourcePath ++ "/" ++ names.className ++ ".ts"
    names := names
    clientParameters := clientParameters
    operations := ops
    imports := classImports names ops clientParameters }

end ClientGen.Plan
