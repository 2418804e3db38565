import ClientGen.Plan.ClientDefinitions
import ClientGen.Proofs.Imports.Steps

/-!
# The imports of planned files

The import set of each planned file, written out as the list of steps that fill it.
-/

namespace ClientGen

open Imports (Step)

namespace Imports

theorem addAll_eq (i : Imports) (module : String) (names : List String) :
    i.addAll module names = i.takeAll (names.map (⟨module, ·, none⟩)) := by
  rw [takeAll_map]
  rfl

/-- The steps for the model types that a type expression names. -/
def modelSteps (module type : String) : List Step :=
  (referencedTypes type).map fun name => ⟨module, name, some (.model name)⟩

theorem addModels_eq (i : Imports) (module type : String) :
    i.addModels module type = i.takeAll (modelSteps module type) := by
  rw [modelSteps, takeAll_map]
  rfl

end Imports

namespace Plan

open Imports (modelSteps)

/-! ## Files of operations -/

def commonSteps : List Step :=
  [operationContext, "PathUncheckedResponse", "StreamableMethod", "createRestError",
    "operationOptionsToRequestParameters"].map (⟨httpRuntime, ·, none⟩)

def kindSteps (op : Operation) : List Step :=
  match op.kind with
  | .longRunning =>
    ["OperationState", "PollerLike"].map (⟨longRunningLibrary, ·, none⟩) ++
      [⟨FromOperation.pollingHelpers, "getLongRunningPoller", none⟩]
  | .paging =>
    ["PagedAsyncIterableIterator", "buildPagedAsyncIterator"].map (⟨FromOperation.pagingHelpers, ·, none⟩)
  | .plain => []

def parameterSteps (module : String) (ps : List Parameter) : List Step :=
  (ps.filter fun p => !p.isOptions).flatMap fun p => modelSteps module p.type

def operationSteps (op : Operation) : List Step :=
  commonSteps ++ kindSteps op ++ parameterSteps FromOperation.models op.parameters ++
    modelSteps FromOperation.models op.returnType ++ modelSteps FromOperation.models op.deserializeType ++
    [⟨FromOperation.options, op.optionsType, some (.type op.optionsType)⟩]

theorem addKindImports_eq (op : Operation) (i : Imports) : addKindImports op i = i.takeAll (kindSteps op) := by
  unfold addKindImports kindSteps
  cases op.kind with
  | plain => rfl
  | longRunning =>
    simp only [Imports.takeAll_append, ← Imports.addAll_eq]
    rfl
  | paging => simp only [← Imports.addAll_eq]

theorem addParameterModels_eq (module : String) (ps : List Parameter) (i : Imports) :
    addParameterModels module ps i = i.takeAll (parameterSteps module ps) := by
  rw [parameterSteps, Imports.takeAll_flatMap]
  simp only [addParameterModels, Imports.addModels_eq]

theorem operationImports_eq (op : Operation) : operationImports op = Imports.empty.takeAll (operationSteps op) := by
  simp only [operationSteps, Imports.takeAll_append, commonSteps, ← Imports.addAll_eq, ← addKindImports_eq,
    ← addParameterModels_eq, ← Imports.addModels_eq]
  rfl

/-! ## Files of the source folder -/

def returnSteps (ops : List Operation) : List Step :=
  (if ops.any fun op => op.kind == .longRunning then
    ["OperationState", "PollerLike"].map (⟨longRunningLibrary, ·, none⟩) else []) ++
  (if ops.any fun op => op.kind == .paging then
    [⟨FromSource.pagingHelpers, "PagedAsyncIterableIterator", none⟩] else [])

def optionsSteps (ops : List Operation) : List Step :=
  ops.map fun op => ⟨FromSource.options, op.optionsType, some (.type op.optionsType)⟩

def signatureSteps (ops : List Operation) : List Step :=
  ops.flatMap fun op =>
    parameterSteps FromSource.models op.parameters ++ modelSteps FromSource.models op.returnType

def functionSteps (ops : List Operation) : List Step :=
  ops.map fun op => ⟨FromSource.operation op.name, op.name, some op.functionKey⟩

def clientSteps (names : ClientNames) : List Step :=
  [⟨FromSource.apiIndex, names.factoryName, some (.client names.base)⟩,
   ⟨FromSource.apiIndex, names.contextType, some (.type names.contextType)⟩,
   ⟨FromSource.apiIndex, names.optionalParamsType, some (.type names.optionalParamsType)⟩]

def classSteps (names : ClientNames) (ops : List Operation) (clientParameters : List Parameter) : List Step :=
  [⟨httpRuntime, "Pipeline", none⟩] ++ returnSteps ops ++ clientSteps names ++ functionSteps ops ++
    optionsSteps ops ++ signatureSteps ops ++
    clientParameters.flatMap fun p => modelSteps FromSource.models p.type

def routeSteps (r : Route) : List Step :=
  (r.parameters.flatMap fun p => modelSteps FromSource.models p.type) ++
    r.responseTypes.flatMap (modelSteps FromSource.models)

def definitionsSteps (routes : List Route) (ops : List Operation) : List Step :=
  ["Client", "StreamableMethod"].map (⟨httpRuntime, ·, none⟩) ++ returnSteps ops ++ optionsSteps ops ++
    routes.flatMap routeSteps ++ signatureSteps ops

theorem addReturnImports_eq (ops : List Operation) (i : Imports) :
    addReturnImports ops i = i.takeAll (returnSteps ops) := by
  simp only [returnSteps, Imports.takeAll_append]
  unfold addReturnImports
  split <;> split <;> simp only [Imports.addAll_eq] <;> rfl

theorem addOptionsTypes_eq (ops : List Operation) (i : Imports) :
    addOptionsTypes ops i = i.takeAll (optionsSteps ops) := by
  rw [optionsSteps, Imports.takeAll_map]
  rfl

theorem addSignatureModels_eq (ops : List Operation) (i : Imports) :
    addSignatureModels ops i = i.takeAll (signatureSteps ops) := by
  rw [signatureSteps, Imports.takeAll_flatMap]
  simp only [addSignatureModels, Imports.takeAll_append, addParameterModels_eq, Imports.addModels_eq]

theorem addOperationFunctions_eq (ops : List Operation) (i : Imports) :
    addOperationFunctions ops i = i.takeAll (functionSteps ops) := by
  rw [functionSteps, Imports.takeAll_map]
  rfl

theorem addClientNames_eq (names : ClientNames) (i : Imports) :
    addClientNames names i = i.takeAll (clientSteps names) := rfl

theorem classImports_eq (names : ClientNames) (ops : List Operation) (clientParameters : List Parameter) :
    classImports names ops clientParameters = Imports.empty.takeAll (classSteps names ops clientParameters) := by
  simp only [classSteps, Imports.takeAll_append, Imports.takeAll_flatMap, ← addReturnImports_eq,
    ← addClientNames_eq, ← addOperationFunctions_eq, ← addOptionsTypes_eq, ← addSignatureModels_eq,
    ← Imports.addModels_eq]
  rfl

theorem definitionsImports_eq (routes : List Route) (ops : List Operation) :
    definitionsImports routes ops = Imports.empty.takeAll (definitionsSteps routes ops) := by
  simp only [definitionsSteps, routeSteps, Imports.takeAll_append, Imports.takeAll_flatMap, ← addReturnImports_eq,
    ← addOptionsTypes_eq, ← addSignatureModels_eq, ← Imports.addModels_eq, ← Imports.addAll_eq]
  rfl

end Plan

end ClientGen
