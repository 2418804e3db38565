import ClientGen.Imports
import ClientGen.Plan.Operation

/-!
# Files of operations

Each operation has a file of its own, with the function that sends the request, the one that reads the response and
the one that callers use.

The modules from which generated files import have other names in the folder of the operations than in the folder
above it.
-/

/-! ## Modules of a generated package -/

namespace ClientGen.Plan

def httpRuntime : String := "@typespec/ts-http-runtime"

def longRunningLibrary : String := "@azure/core-lro"

namespace FromOperation

def pagingHelpers : String := "../static-helpers/pagingHelpers.js"

def pollingHelpers : String := "../static-helpers/pollingHelpers.js"

def models : String := "../models/models.js"

def options : String := "./options.js"

end FromOperation

namespace FromSource

def pagingHelpers : String := "./static-helpers/pagingHelpers.js"

def models : String := "./models/models.js"

def options : String := "./api/options.js"

def apiIndex : String := "./api/index.js"

def operation (name : String) : String := "./api/" ++ name ++ ".js"

end FromSource

/-! ## Files of operations -/

structure OperationFile where
  path : String
  contextType : String
  operation : Operation
  imports : Imports
  deriving DecidableEq

def operationContext : String := "Client"

def commonImports : Imports :=
  Imports.empty.addAll httpRuntime
    [operationContext, "PathUncheckedResponse", "StreamableMethod", "createRestError",
     "operationOptionsToRequestParameters"]

def addKindImports (op : Operation) (i : Imports) : Imports :=
  match op.kind with
  | .longRunning =>
    (i.addAll longRunningLibrary ["OperationState", "PollerLike"]).add FromOperation.pollingHelpers
      "getLongRunningPoller"
  | .paging => i.addAll FromOperation.pagingHelpers ["PagedAsyncIterableIterator", "buildPagedAsyncIterator"]
  | .plain => i

def addParameterModels (module : String) (ps : List Parameter) (i : Imports) : Imports :=
  (ps.filter fun p => !p.isOptions).foldl (fun i p => i.addModels module p.type) i

def operationImports (op : Operation) : Imports :=
  let i := addParameterModels FromOperation.models op.parameters (addKindImports op commonImports)
  let i := (i.addModels FromOperation.models op.returnType).addModels FromOperation.models op.deserializeType
  i.addKeyed FromOperation.options op.optionsType (.type op.optionsType)

def operationFile (m : Service.Model) (op : Operation) : OperationFile where
  path := m.sourcePath ++ "/api/" ++ op.name ++ ".ts"
  contextType := operationContext
  operation := op
  imports := operationImports op

end ClientGen.Plan
