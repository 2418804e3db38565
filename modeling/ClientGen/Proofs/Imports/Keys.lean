import ClientGen.Proofs.Imports.Plan
import ClientGen.Proofs.Plan.Operation

/-!
# Keys in the imports of planned files

A name that a planned file imports under a key is the name in that key; only the factory of a client is called
otherwise. No key is that of a parameter, so that a parameter never hides an imported name. The client class imports the
function of every operation under the key of that function.
-/

namespace ClientGen

namespace Imports

/-- A step whose key, if it has one, is that of a model, a type or a function with the name of the step. -/
def Step.SelfNamed (s : Step) : Prop :=
  ∀ key, s.key = some key → key = .model s.name ∨ key = .type s.name ∨ key = .operationFunction s.name

/-- No key of an import set is that of a parameter. -/
def ParameterFree (i : Imports) : Prop := ∀ name key, (name, some key) ∈ i.symbols → key.kind ≠ .parameter

theorem Step.SelfNamed.kind_ne {s : Step} (h : s.SelfNamed) {key : Reference} (hkey : s.key = some key) :
    key.kind ≠ .parameter := by
  rcases h key hkey with rfl | rfl | rfl <;> simp [Reference.model, Reference.type, Reference.operationFunction]

theorem parameterFree_takeAll {steps : List Step} (h : ∀ s ∈ steps, ∀ key, s.key = some key → key.kind ≠ .parameter) :
    ParameterFree (Imports.empty.takeAll steps) := by
  intro name key hm
  rcases mem_symbols_takeAll hm with hm | ⟨s, hs, heq⟩
  · cases hm
  · exact h s hs key (congrArg Prod.snd heq).symm

theorem selfNamed_modelSteps (module type : String) : ∀ s ∈ modelSteps module type, s.SelfNamed := by
  simp [modelSteps, Step.SelfNamed]

theorem module_of_mem_modelSteps {module type : String} {s : Step} (h : s ∈ modelSteps module type) :
    s.module = module := by
  obtain ⟨name, _, rfl⟩ := List.mem_map.1 h
  rfl

end Imports

namespace Plan

open Imports (Step ParameterFree selfNamed_modelSteps parameterFree_takeAll module_of_mem_modelSteps)

/-! ## Names and keys of steps -/

theorem selfNamed_parameterSteps (module : String) (ps : List Parameter) :
    ∀ s ∈ parameterSteps module ps, s.SelfNamed := by
  intro s hs
  obtain ⟨p, _, hp⟩ := List.mem_flatMap.1 hs
  exact selfNamed_modelSteps module p.type s hp

theorem selfNamed_kindSteps (op : Operation) : ∀ s ∈ kindSteps op, s.SelfNamed := by
  unfold kindSteps
  cases op.kind <;> simp [Step.SelfNamed]

theorem selfNamed_returnSteps (ops : List Operation) : ∀ s ∈ returnSteps ops, s.SelfNamed := by
  simp only [returnSteps, List.forall_mem_append]
  constructor
  · split <;> simp [Step.SelfNamed]
  · split <;> simp [Step.SelfNamed]

theorem selfNamed_optionsSteps (ops : List Operation) : ∀ s ∈ optionsSteps ops, s.SelfNamed := by
  simp [optionsSteps, Step.SelfNamed]

theorem selfNamed_functionSteps (ops : List Operation) : ∀ s ∈ functionSteps ops, s.SelfNamed := by
  simp [functionSteps, Step.SelfNamed, Operation.functionKey]

theorem selfNamed_signatureSteps (ops : List Operation) : ∀ s ∈ signatureSteps ops, s.SelfNamed := by
  intro s hs
  obtain ⟨op, _, hop⟩ := List.mem_flatMap.1 hs
  rcases List.mem_append.1 hop with h | h
  · exact selfNamed_parameterSteps _ _ s h
  · exact selfNamed_modelSteps _ _ s h

theorem selfNamed_routeSteps (r : Route) : ∀ s ∈ routeSteps r, s.SelfNamed := by
  intro s hs
  rcases List.mem_append.1 hs with h | h
  · obtain ⟨p, _, hp⟩ := List.mem_flatMap.1 h
    exact selfNamed_modelSteps _ _ s hp
  · obtain ⟨t, _, ht⟩ := List.mem_flatMap.1 h
    exact selfNamed_modelSteps _ _ s ht

theorem selfNamed_operationSteps (op : Operation) : ∀ s ∈ operationSteps op, s.SelfNamed := by
  simp only [operationSteps, List.forall_mem_append]
  refine ⟨⟨⟨⟨⟨?_, selfNamed_kindSteps op⟩, selfNamed_parameterSteps _ _⟩, selfNamed_modelSteps _ _⟩,
    selfNamed_modelSteps _ _⟩, ?_⟩
  · simp [commonSteps, Step.SelfNamed]
  · simp [Step.SelfNamed]

theorem selfNamed_definitionsSteps (routes : List Route) (ops : List Operation) :
    ∀ s ∈ definitionsSteps routes ops, s.SelfNamed := by
  simp only [definitionsSteps, List.forall_mem_append]
  refine ⟨⟨⟨⟨?_, selfNamed_returnSteps ops⟩, selfNamed_optionsSteps ops⟩, fun s hs => ?_⟩,
    selfNamed_signatureSteps ops⟩
  · simp [Step.SelfNamed]
  · obtain ⟨r, _, hr⟩ := List.mem_flatMap.1 hs
    exact selfNamed_routeSteps r s hr

/-- The step for the factory of a client, the only one with a name of its own. -/
def factoryStep (names : ClientNames) : Step := ⟨FromSource.apiIndex, names.factoryName, some (.client names.base)⟩

theorem eq_factoryStep_or_selfNamed (names : ClientNames) (ops : List Operation) (clientParameters : List Parameter) :
    ∀ s ∈ classSteps names ops clientParameters, s = factoryStep names ∨ s.SelfNamed := by
  simp only [classSteps, List.forall_mem_append]
  refine ⟨⟨⟨⟨⟨⟨?_, fun s hs => .inr (selfNamed_returnSteps ops s hs)⟩, ?_⟩,
    fun s hs => .inr (selfNamed_functionSteps ops s hs)⟩, fun s hs => .inr (selfNamed_optionsSteps ops s hs)⟩,
    fun s hs => .inr (selfNamed_signatureSteps ops s hs)⟩, fun s hs => ?_⟩
  · simp [Step.SelfNamed]
  · simp [clientSteps, factoryStep, Step.SelfNamed]
  · obtain ⟨p, _, hp⟩ := List.mem_flatMap.1 hs
    exact .inr (selfNamed_modelSteps _ _ s hp)

/-! ## No key of a parameter -/

theorem parameterFree_operationImports (op : Operation) : ParameterFree (operationImports op) := by
  rw [operationImports_eq]
  exact parameterFree_takeAll fun s hs _ hkey => (selfNamed_operationSteps op s hs).kind_ne hkey

theorem parameterFree_classImports (names : ClientNames) (ops : List Operation) (clientParameters : List Parameter) :
    ParameterFree (classImports names ops clientParameters) := by
  rw [classImports_eq]
  refine parameterFree_takeAll fun s hs key hkey => ?_
  rcases eq_factoryStep_or_selfNamed names ops clientParameters s hs with rfl | hself
  · cases hkey
    simp [Reference.client]
  · exact hself.kind_ne hkey

/-! ## The key of a function -/

theorem operation_eq_iff {name name' : String} :
    FromSource.operation name = FromSource.operation name' ↔ name = name' := by
  simp [FromSource.operation, ← String.toList_inj]

theorem models_ne_operation (name : String) : FromSource.models ≠ FromSource.operation name := by
  simp [FromSource.operation, FromSource.models, ← String.toList_inj]

theorem index_eq_operation_iff {name : String} : FromSource.apiIndex = FromSource.operation name ↔ "index" = name :=
  @operation_eq_iff "index" name

theorem options_eq_operation_iff {name : String} : FromSource.options = FromSource.operation name ↔ "options" = name :=
  @operation_eq_iff "options" name

/-- A text with a suffix is none that the suffix is not at the end of. -/
theorem append_ne {base suffix t : String} (h : ¬ suffix.toList <:+ t.toList) : base ++ suffix ≠ t := by
  rintro rfl
  exact h (by simp)

theorem module_ne_of_mem_returnSteps {ops : List Operation} {s : Step} (hs : s ∈ returnSteps ops) (name : String) :
    s.module ≠ FromSource.operation name := by
  have hmodule : s.module = longRunningLibrary ∨ s.module = FromSource.pagingHelpers := by
    rcases List.mem_append.1 hs with h | h
    · split at h
      · obtain ⟨_, _, rfl⟩ := List.mem_map.1 h
        exact Or.inl rfl
      · cases h
    · split at h
      · obtain rfl := List.mem_singleton.1 h
        exact Or.inr rfl
      · cases h
  rcases hmodule with h | h
  · simp [h, longRunningLibrary, FromSource.operation, ← String.toList_inj]
  · simp [h, FromSource.pagingHelpers, FromSource.operation, ← String.toList_inj]

/-- The names that belong to a client are not taken from the module of an operation with such a name. -/
theorem name_ne_of_mem_clientSteps {client name : String} {s : Step} (hs : s ∈ clientSteps (ClientNames.ofName client))
    (hmodule : s.module = FromSource.operation name) : s.name ≠ name := by
  simp only [clientSteps, ClientNames.ofName, List.mem_cons, List.not_mem_nil, or_false] at hs
  rcases hs with rfl | rfl | rfl
  · rw [← index_eq_operation_iff.1 hmodule]
    simp [← String.toList_inj]
  · rw [← index_eq_operation_iff.1 hmodule]
    exact append_ne (by decide)
  · rw [← index_eq_operation_iff.1 hmodule]
    exact append_ne (by decide)

/-- Whoever takes a name from the module of the operation with that name takes the function of the operation. -/
theorem key_of_mem_classSteps {client name : String} {ops : List Operation} {clientParameters : List Parameter}
    (hops : ∀ op ∈ ops, op.optionsType = optionsTypeOf op.name) {s : Step}
    (hs : s ∈ classSteps (ClientNames.ofName client) ops clientParameters)
    (hmodule : s.module = FromSource.operation name) (hname : s.name = name) :
    s.key = some (.operationFunction name) := by
  simp only [classSteps, List.mem_append, List.mem_flatMap] at hs
  rcases hs with (((((hs | hs) | hs) | hs) | hs) | hs) | ⟨p, _, hs⟩
  · obtain rfl := List.mem_singleton.1 hs
    simp [httpRuntime, FromSource.operation, ← String.toList_inj] at hmodule
  · exact absurd hmodule (module_ne_of_mem_returnSteps hs name)
  · exact absurd hname (name_ne_of_mem_clientSteps hs hmodule)
  · obtain ⟨op, _, rfl⟩ := List.mem_map.1 hs
    rw [← hname]
    rfl
  · obtain ⟨op, hop, rfl⟩ := List.mem_map.1 hs
    rw [← options_eq_operation_iff.1 hmodule] at hname
    exact absurd (hops op hop ▸ hname) (append_ne (by decide))
  · obtain ⟨op, _, hs⟩ := List.mem_flatMap.1 hs
    rcases List.mem_append.1 hs with hs | hs
    · obtain ⟨p, _, hs⟩ := List.mem_flatMap.1 hs
      exact absurd (module_of_mem_modelSteps hs ▸ hmodule) (models_ne_operation name)
    · exact absurd (module_of_mem_modelSteps hs ▸ hmodule) (models_ne_operation name)
  · exact absurd (module_of_mem_modelSteps hs ▸ hmodule) (models_ne_operation name)

/-- The client class imports the function of each of its operations. -/
theorem functionKey_mem_classImports {client : String} {ops : List Operation} {clientParameters : List Parameter}
    (hops : ∀ op ∈ ops, op.optionsType = optionsTypeOf op.name) {op : Operation} (hop : op ∈ ops) :
    (op.name, some op.functionKey) ∈ (classImports (ClientNames.ofName client) ops clientParameters).symbols := by
  have hstep : ⟨FromSource.operation op.name, op.name, some op.functionKey⟩ ∈
      classSteps (ClientNames.ofName client) ops clientParameters := by
    have hfunction : ⟨FromSource.operation op.name, op.name, some op.functionKey⟩ ∈ functionSteps ops :=
      List.mem_map_of_mem hop
    simp [classSteps, hfunction]
  rw [classImports_eq]
  exact (Imports.takes_takeAll hstep fun s hs => key_of_mem_classSteps hops hs).mem_symbols

/-! ## The key of the factory -/

/-- Whoever takes a name like that of the factory from the index takes the factory. -/
theorem key_of_mem_classSteps_factory {client : String} {ops : List Operation} {clientParameters : List Parameter}
    {s : Step} (hs : s ∈ classSteps (ClientNames.ofName client) ops clientParameters)
    (hmodule : s.module = FromSource.apiIndex) (hname : s.name = (ClientNames.ofName client).factoryName) :
    s.key = some (.client (ClientNames.ofName client).base) := by
  have hmodels : FromSource.models ≠ FromSource.apiIndex := by decide
  have hoptions : FromSource.options ≠ FromSource.apiIndex := by decide
  simp only [classSteps, List.mem_append, List.mem_flatMap] at hs
  rcases hs with (((((hs | hs) | hs) | hs) | hs) | hs) | ⟨p, _, hs⟩
  · obtain rfl := List.mem_singleton.1 hs
    exact absurd hmodule (by decide)
  · exact absurd (hmodule.trans (index_eq_operation_iff.2 rfl)) (module_ne_of_mem_returnSteps hs "index")
  · simp only [clientSteps, List.mem_cons, List.not_mem_nil, or_false] at hs
    rcases hs with rfl | rfl | rfl
    · rfl
    · have hlength := congrArg (fun t => t.toList.length) hname
      simp [ClientNames.ofName] at hlength
    · have hlength := congrArg (fun t => t.toList.length) hname
      simp [ClientNames.ofName] at hlength
  · obtain ⟨op, _, rfl⟩ := List.mem_map.1 hs
    have hindex : FromSource.apiIndex = FromSource.operation op.name := hmodule.symm
    have hop : op.name = "create" ++ clientBase (Text.pascal client) := hname
    rw [← index_eq_operation_iff.1 hindex] at hop
    simp [← String.toList_inj] at hop
  · obtain ⟨op, _, rfl⟩ := List.mem_map.1 hs
    exact absurd hmodule hoptions
  · obtain ⟨op, _, hs⟩ := List.mem_flatMap.1 hs
    rcases List.mem_append.1 hs with hs | hs
    · obtain ⟨p, _, hs⟩ := List.mem_flatMap.1 hs
      exact absurd ((module_of_mem_modelSteps hs).symm.trans hmodule) hmodels
    · exact absurd ((module_of_mem_modelSteps hs).symm.trans hmodule) hmodels
  · exact absurd ((module_of_mem_modelSteps hs).symm.trans hmodule) hmodels

/-- The client class imports the factory of its client from the index, under the key of the client. -/
theorem takes_factory (client : String) (ops : List Operation) (clientParameters : List Parameter) :
    let names := ClientNames.ofName client
    (classImports names ops clientParameters).Takes FromSource.apiIndex names.factoryName
      (some (.client names.base)) := by
  intro names
  rw [classImports_eq]
  refine Imports.takes_takeAll ?_ fun s hs => key_of_mem_classSteps_factory hs
  simp [classSteps, clientSteps]

end Plan

end ClientGen
