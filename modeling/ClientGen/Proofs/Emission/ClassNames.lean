import ClientGen.Proofs.Emission.Failure
import ClientGen.Proofs.Imports.Keys
import ClientGen.Proofs.Imports.Order
import ClientGen.Proofs.Plan.OptionsTypes

/-!
# The names in a client class

A client class imports names that are the same for all models, the names that belong to the client, and for each
operation its function and the type of its options. They are made of the title and of the names of the operations. What
may become one are the names of functions with others, and options types among themselves.
-/

namespace ClientGen

open Imports (Step OneModule oneModule_append_iff)

namespace Plan

variable {m : Service.Model} {ops : List Operation} {client : String}

/-! ## The names that the generator brings in -/

/-- The imports that do not depend on names of the model. -/
def fixedSteps (ops : List Operation) : List Step := ⟨httpRuntime, "Pipeline", none⟩ :: returnSteps ops

/-- The names that belong to a client. -/
def ClientNames.own (names : ClientNames) : List String :=
  [names.factoryName, names.contextType, names.optionalParamsType, names.className]

/-- What a client class brings in by itself, besides the types of the model. -/
def introducedNames (names : ClientNames) (ops : List Operation) : List String :=
  (fixedSteps ops).map Step.name ++ names.own ++ ops.map Operation.name ++ ops.map Operation.optionsType

/-- No function of an operation is called as something of the client or as an options type. -/
def FunctionsApart (names : ClientNames) (ops : List Operation) : Prop :=
  ∀ op ∈ ops, op.name ∉ names.own ∧ op.name ∉ ops.map Operation.optionsType

/-! ## Fixed names -/

/-- All names that may be fixed. -/
def fixedNames : List String := ["Pipeline", "OperationState", "PollerLike", "PagedAsyncIterableIterator"]

theorem sublist_fixedNames (ops : List Operation) : ((fixedSteps ops).map Step.name).Sublist fixedNames := by
  simp only [fixedSteps, returnSteps]
  split <;> split <;> decide

theorem nodup_fixedSteps (ops : List Operation) : ((fixedSteps ops).map Step.name).Nodup :=
  (by decide : fixedNames.Nodup).sublist (sublist_fixedNames ops)

theorem oneModule_fixedSteps (ops : List Operation) : OneModule (fixedSteps ops) := by
  intro s hs s' hs' hname
  rw [List.inj_on_of_nodup_map (nodup_fixedSteps ops) hs hs' hname]

/-! ## Endings of type names -/

/-- What the names of types of a client and of options end in. -/
def typeEndings : List String := ["Context", "ClientOptionalParams", "Client", "Options"]

theorem append_ne_fixed {name ending : String} (hname : name ∈ fixedNames) (hending : ending ∈ typeEndings)
    (base : String) : base ++ ending ≠ name := by
  have hall : ∀ ending ∈ typeEndings, ∀ name ∈ fixedNames, ¬ ending.toList <:+ name.toList := by decide
  exact append_ne (hall ending hending name hname)

theorem append_ne_append {ending ending' : String} (h : ending ∈ typeEndings) (h' : ending' ∈ typeEndings)
    (hne : ending ≠ ending') (base base' : String) : base ++ ending ≠ base' ++ ending' := by
  have hall : ∀ s ∈ typeEndings, ∀ t ∈ typeEndings, s ≠ t → ¬ s.toList <:+ t.toList := by decide
  exact Text.append_ne_append (hall _ h _ h' hne) (hall _ h' _ h hne.symm) base base'

theorem create_ne_fixed {name : String} (hname : name ∈ fixedNames) (base : String) : "create" ++ base ≠ name := by
  have hall : ∀ name ∈ fixedNames, ¬ "create".toList <+: name.toList := by decide
  rintro rfl
  exact hall _ hname (by simp)

/-! ## Names of the client -/

theorem own_ofName (client : String) : ∃ base, (ClientNames.ofName client).own =
    ["create" ++ base, base ++ "Context", base ++ "ClientOptionalParams", base ++ "Client"] := ⟨_, rfl⟩

theorem nodup_own (client : String) : (ClientNames.ofName client).own.Nodup := by
  obtain ⟨base, hown⟩ := own_ofName client
  have hcontext : "create" ++ base ≠ base ++ "Context" := by
    intro heq
    have hlength := congrArg (fun s => s.toList.length) heq
    simp at hlength
  have hparams : "create" ++ base ≠ base ++ "ClientOptionalParams" := by
    intro heq
    have hlength := congrArg (fun s => s.toList.length) heq
    simp at hlength
  -- these two are equally long, but one of them has one `l` more
  have hclass : "create" ++ base ≠ base ++ "Client" := by
    intro heq
    have hcount := congrArg (fun s => s.toList.count 'l') heq
    simp [List.count_append] at hcount
  have hcontextParams : base ++ "Context" ≠ base ++ "ClientOptionalParams" :=
    append_ne_append (by decide) (by decide) (by decide) _ _
  have hcontextClass : base ++ "Context" ≠ base ++ "Client" := append_ne_append (by decide) (by decide) (by decide) _ _
  have hparamsClass : base ++ "ClientOptionalParams" ≠ base ++ "Client" :=
    append_ne_append (by decide) (by decide) (by decide) _ _
  simp only [hown, List.nodup_cons, List.mem_cons, List.not_mem_nil, or_false, not_or]
  exact ⟨⟨hcontext, hparams, hclass⟩, ⟨hcontextParams, hcontextClass⟩, hparamsClass, not_false, List.nodup_nil⟩

theorem own_ne_fixed {name name' : String} (h : name ∈ (ClientNames.ofName client).own) (h' : name' ∈ fixedNames) :
    name ≠ name' := by
  obtain ⟨base, hown⟩ := own_ofName client
  simp only [hown, List.mem_cons, List.not_mem_nil, or_false] at h
  rcases h with rfl | rfl | rfl | rfl
  · exact create_ne_fixed h' _
  all_goals exact append_ne_fixed h' (by decide) _

/-! ## Names of operations -/

/-- A text begins with an ASCII capital. -/
def BeginsUpper (s : String) : Prop := ∃ d, s.toList.head? = some d ∧ d.isUpper = true

theorem beginsUpper_append {s ending : String} (hs : ∀ d, s.toList.head? = some d → d.isUpper = true)
    (hending : BeginsUpper ending) : BeginsUpper (s ++ ending) := by
  unfold BeginsUpper
  rw [String.toList_append, List.head?_append]
  cases h : s.toList.head? with
  | none => exact hending
  | some d => exact ⟨d, rfl, hs d h⟩

theorem not_beginsUpper_name (h : operations m = .ok ops) {op : Operation} (hop : op ∈ ops) :
    ¬ BeginsUpper op.name := by
  obtain ⟨e, _, shaped, _, rfl⟩ := exists_of_mem_operations h hop
  rintro ⟨d, hd, hupper⟩
  rw [Text.isUpper_of_head?_camel hd] at hupper
  cases hupper

theorem name_ne_fixed (h : operations m = .ok ops) {op : Operation} (hop : op ∈ ops) {name : String}
    (hname : name ∈ fixedNames) : name ≠ op.name := by
  have hall : ∀ name ∈ fixedNames, BeginsUpper name := by simp [fixedNames, BeginsUpper]
  rintro rfl
  exact not_beginsUpper_name h hop (hall _ hname)

theorem fixed_ne_optionsType (h : operations m = .ok ops) {op : Operation} (hop : op ∈ ops) {name : String}
    (hname : name ∈ fixedNames) : name ≠ op.optionsType := by
  rw [(regular_of_mem_operations h hop).optionsType]
  exact (append_ne_fixed hname (by decide) _).symm

theorem own_ne_optionsType (h : operations m = .ok ops) {op : Operation} (hop : op ∈ ops) {name : String}
    (hname : name ∈ (ClientNames.ofName client).own) : name ≠ op.optionsType := by
  obtain ⟨base, hown⟩ := own_ofName client
  rw [(regular_of_mem_operations h hop).optionsType]
  simp only [hown, List.mem_cons, List.not_mem_nil, or_false] at hname
  rcases hname with rfl | rfl | rfl | rfl
  · intro heq
    have hhead : (Text.pascal op.name ++ "Options").toList.head? = some 'c' := by
      rw [← optionsTypeOf, ← heq]
      simp
    rw [String.toList_append, List.head?_append, Option.or_eq_some_iff] at hhead
    rcases hhead with hhead | ⟨_, hhead⟩
    · exact absurd (Text.isLower_of_head?_pascal hhead) (by decide)
    · exact absurd hhead (by decide)
  all_goals exact append_ne_append (by decide) (by decide) (by decide) _ _

/-- The names that a client class brings in are apart exactly if those of the functions are apart from the others, and
those of the options types from each other. -/
theorem nodup_introducedNames_iff (h : operations m = .ok ops) :
    (introducedNames (ClientNames.ofName client) ops).Nodup ↔
      FunctionsApart (ClientNames.ofName client) ops ∧ (ops.map Operation.optionsType).Nodup := by
  have hnames := nodup_names_of_operations h
  have hfixed : ∀ name ∈ (fixedSteps ops).map Step.name, name ∈ fixedNames := (sublist_fixedNames ops).subset
  simp only [introducedNames, List.nodup_append, nodup_fixedSteps, nodup_own, hnames, true_and, List.forall_mem_append]
  constructor
  · rintro ⟨⟨_, _, hown⟩, hoptions, _, hfunctions⟩
    refine ⟨fun op hop => ⟨fun hmem => ?_, fun hmem => ?_⟩, hoptions⟩
    · exact hown _ hmem _ (List.mem_map_of_mem hop) rfl
    · exact hfunctions _ (List.mem_map_of_mem hop) _ hmem rfl
  · rintro ⟨hapart, hoptions⟩
    refine ⟨⟨fun name hname name' hname' => ?_, fun name hname => ?_, fun name hname => ?_⟩, hoptions,
      ⟨fun name hname => ?_, fun name hname => ?_⟩, ?_⟩
    · exact (own_ne_fixed hname' (hfixed name hname)).symm
    · exact List.forall_mem_map.2 fun op hop => name_ne_fixed h hop (hfixed name hname)
    · exact List.forall_mem_map.2 fun op hop heq => (hapart op hop).1 (heq ▸ hname)
    · exact List.forall_mem_map.2 fun op hop => fixed_ne_optionsType h hop (hfixed name hname)
    · exact List.forall_mem_map.2 fun op hop => own_ne_optionsType h hop hname
    · exact List.forall_mem_map.2 fun op hop name' hname' heq => (hapart op hop).2 (heq ▸ hname')

/-- Where the base of a client and its operations begin with letters, all that a function may be called like is the
factory. -/
theorem functionsApart_iff (h : operations m = .ok ops)
    (hbase : ∀ d, (ClientNames.ofName client).base.toList.head? = some d → d.isUpper = true)
    (hinitial : ∀ op ∈ ops, ∀ c, Text.initial? op.name = some c → c.isAlpha = true) :
    FunctionsApart (ClientNames.ofName client) ops ↔
      (ClientNames.ofName client).factoryName ∉ ops.map Operation.name := by
  have hcapital : BeginsUpper "Context" ∧ BeginsUpper "ClientOptionalParams" ∧ BeginsUpper "Client" ∧
      BeginsUpper "Options" := by simp [BeginsUpper]
  constructor
  · intro hapart hmem
    obtain ⟨op, hop, hname⟩ := List.mem_map.1 hmem
    exact (hapart op hop).1 (by simp [ClientNames.own, hname])
  · intro hfactory op hop
    have hlower := not_beginsUpper_name h hop
    constructor
    · intro hmem
      simp only [ClientNames.own, List.mem_cons, List.not_mem_nil, or_false] at hmem
      rcases hmem with hname | hname | hname | hname
      · exact hfactory (List.mem_map.2 ⟨op, hop, hname⟩)
      · rw [hname, contextType_ofName] at hlower
        exact hlower (beginsUpper_append hbase hcapital.1)
      · rw [hname, optionalParamsType_ofName] at hlower
        exact hlower (beginsUpper_append hbase hcapital.2.1)
      · rw [hname, className_ofName] at hlower
        exact hlower (beginsUpper_append hbase hcapital.2.2.1)
    · intro hmem
      obtain ⟨op', hop', hname⟩ := List.mem_map.1 hmem
      rw [← hname, (regular_of_mem_operations h hop').optionsType] at hlower
      exact hlower (beginsUpper_append (fun d => Text.isUpper_of_head?_pascal (hinitial op' hop')) hcapital.2.2.2)

/-! ## The imports of the class -/

/-- The steps for what a client class brings in by itself. -/
def introducedSteps (names : ClientNames) (ops : List Operation) : List Step :=
  fixedSteps ops ++ clientSteps names ++ functionSteps ops ++ optionsSteps ops

/-- The steps for the types of the model. -/
def classModelSteps (ops : List Operation) (clientParameters : List Parameter) : List Step :=
  signatureSteps ops ++ clientParameters.flatMap fun p => Imports.modelSteps FromSource.models p.type

theorem classSteps_eq (names : ClientNames) (ops : List Operation) (clientParameters : List Parameter) :
    classSteps names ops clientParameters = introducedSteps names ops ++ classModelSteps ops clientParameters := by
  simp [classSteps, introducedSteps, classModelSteps, fixedSteps]

theorem module_of_mem_classModelSteps {clientParameters : List Parameter} {s : Step}
    (hs : s ∈ classModelSteps ops clientParameters) : s.module = FromSource.models := by
  simp only [classModelSteps, signatureSteps, parameterSteps, List.mem_append, List.mem_flatMap] at hs
  rcases hs with ⟨op, _, ⟨p, _, hs⟩ | hs⟩ | ⟨p, _, hs⟩
  all_goals exact Imports.module_of_mem_modelSteps hs

theorem name_of_mem_clientSteps {names : ClientNames} {s : Step} (hs : s ∈ clientSteps names) : s.name ∈ names.own := by
  simp only [clientSteps, List.mem_cons, List.not_mem_nil, or_false] at hs
  rcases hs with rfl | rfl | rfl <;> simp [ClientNames.own]

theorem name_mem_introducedNames {names : ClientNames} {s : Step} (hs : s ∈ introducedSteps names ops) :
    s.name ∈ introducedNames names ops := by
  simp only [introducedSteps, List.mem_append] at hs
  simp only [introducedNames, List.mem_append]
  rcases hs with ((hs | hs) | hs) | hs
  · exact .inl (.inl (.inl (List.mem_map_of_mem hs)))
  · exact .inl (.inl (.inr (name_of_mem_clientSteps hs)))
  · obtain ⟨op, hop, rfl⟩ := List.mem_map.1 hs
    exact .inl (.inr (List.mem_map_of_mem hop))
  · obtain ⟨op, hop, rfl⟩ := List.mem_map.1 hs
    exact .inr (List.mem_map_of_mem hop)

/-- What a client class brings in by itself is imported from one module each exactly if no function is called as another
import. -/
theorem oneModule_introducedSteps_iff (h : operations m = .ok ops) :
    OneModule (introducedSteps (ClientNames.ofName client) ops) ↔
      ∀ op ∈ ops, op.name ∉ (clientSteps (ClientNames.ofName client)).map Step.name ∧
        op.name ∉ ops.map Operation.optionsType := by
  have hfixed : ∀ s ∈ fixedSteps ops, s.name ∈ fixedNames := fun s hs =>
    (sublist_fixedNames ops).subset (List.mem_map_of_mem hs)
  have hclient : OneModule (clientSteps (ClientNames.ofName client)) := by
    simp [OneModule, clientSteps]
  have hfunctions : OneModule (functionSteps ops) := by
    simp [OneModule, functionSteps, FromSource.operation]
  have hoptions : OneModule (optionsSteps ops) := by
    simp [OneModule, optionsSteps]
  simp only [introducedSteps, oneModule_append_iff, oneModule_fixedSteps, hclient, hfunctions, hoptions, true_and,
    List.forall_mem_append]
  constructor
  · rintro ⟨⟨_, _, hnames⟩, _, htypes⟩ op hop
    have hstep : (⟨FromSource.operation op.name, op.name, some op.functionKey⟩ : Step) ∈ functionSteps ops :=
      List.mem_map_of_mem hop
    constructor
    · intro hmem
      obtain ⟨s, hs, hname⟩ := List.mem_map.1 hmem
      exact name_ne_of_mem_clientSteps hs (hnames s hs _ hstep hname) hname
    · intro hmem
      obtain ⟨op', hop', hname⟩ := List.mem_map.1 hmem
      have hmodule := htypes _ hstep _ (List.mem_map_of_mem hop') hname.symm
      rw [← options_eq_operation_iff.1 hmodule.symm, (regular_of_mem_operations h hop').optionsType] at hname
      exact append_ne (by decide) hname
  · intro hapart
    refine ⟨⟨fun s hs s' hs' hname => ?_, fun s hs => ?_, fun s hs => ?_⟩, ⟨fun s hs => ?_, fun s hs => ?_⟩, ?_⟩
    · exact absurd hname.symm (own_ne_fixed (name_of_mem_clientSteps hs') (hfixed s hs))
    · exact List.forall_mem_map.2 fun op hop hname => absurd hname (name_ne_fixed h hop (hfixed s hs))
    · exact List.forall_mem_map.2 fun op hop hname => absurd (List.mem_map.2 ⟨s, hs, hname⟩) (hapart op hop).1
    · exact List.forall_mem_map.2 fun op hop hname => absurd hname (fixed_ne_optionsType h hop (hfixed s hs))
    · exact List.forall_mem_map.2 fun op hop hname =>
        absurd hname (own_ne_optionsType h hop (name_of_mem_clientSteps hs))
    · refine List.forall_mem_map.2 fun op hop => List.forall_mem_map.2 fun op' hop' hname => ?_
      exact absurd (List.mem_map.2 ⟨op', hop', hname.symm⟩) (hapart op hop).2

theorem functionsApart_iff_steps (names : ClientNames) (ops : List Operation) : FunctionsApart names ops ↔
    (∀ op ∈ ops, op.name ∉ (clientSteps names).map Step.name ∧ op.name ∉ ops.map Operation.optionsType) ∧
      ∀ op ∈ ops, names.className ≠ op.name := by
  have hown : ∀ name, name ∈ names.own ↔ name ∈ (clientSteps names).map Step.name ∨ names.className = name := by
    simp [ClientNames.own, clientSteps, or_assoc, eq_comm]
  simp only [FunctionsApart, hown, not_or, ← forall₂_and]
  exact forall₂_congr fun op _ => and_right_comm

theorem className_mem_own (names : ClientNames) : names.className ∈ names.own := by simp [ClientNames.own]

theorem className_notMem_clientSteps (client : String) :
    (ClientNames.ofName client).className ∉ (clientSteps (ClientNames.ofName client)).map Step.name := by
  have hnodup := nodup_own client
  rw [show (ClientNames.ofName client).own =
      (clientSteps (ClientNames.ofName client)).map Step.name ++ [(ClientNames.ofName client).className] from rfl,
    ← List.concat_eq_append, List.nodup_concat] at hnodup
  exact hnodup.1

/-- The name of the class is among what it brings in as an import exactly if a function is called so. -/
theorem className_mem_introducedSteps_iff (h : operations m = .ok ops) :
    (∃ s ∈ introducedSteps (ClientNames.ofName client) ops, s.name = (ClientNames.ofName client).className) ↔
      ∃ op ∈ ops, op.name = (ClientNames.ofName client).className := by
  have hown := className_mem_own (ClientNames.ofName client)
  constructor
  · rintro ⟨s, hs, hname⟩
    simp only [introducedSteps, List.mem_append] at hs
    rcases hs with ((hs | hs) | hs) | hs
    · have hfixed := (sublist_fixedNames ops).subset (List.mem_map_of_mem hs)
      exact absurd hname.symm (own_ne_fixed hown hfixed)
    · exact absurd (List.mem_map.2 ⟨s, hs, hname⟩) (className_notMem_clientSteps client)
    · obtain ⟨op, hop, rfl⟩ := List.mem_map.1 hs
      exact ⟨op, hop, hname⟩
    · obtain ⟨op, hop, rfl⟩ := List.mem_map.1 hs
      exact absurd hname.symm (own_ne_optionsType h hop hown)
  · rintro ⟨op, hop, hname⟩
    have hstep : (⟨FromSource.operation op.name, op.name, some op.functionKey⟩ : Step) ∈ functionSteps ops :=
      List.mem_map_of_mem hop
    exact ⟨_, List.mem_append_left _ (List.mem_append_right _ hstep), hname⟩

section Class

variable {clientParameters : List Parameter}
  (hmodels : ∀ name ∈ introducedNames (ClientNames.ofName client) ops,
    (classImports (ClientNames.ofName client) ops clientParameters).contains FromSource.models name = false)
include hmodels

theorem name_notMem_introducedNames {s : Step} (hs : s ∈ classModelSteps ops clientParameters) :
    s.name ∉ introducedNames (ClientNames.ofName client) ops := by
  intro hmem
  have hcontains : (classImports (ClientNames.ofName client) ops clientParameters).contains FromSource.models s.name =
      true := by
    rw [classImports_eq, classSteps_eq]
    exact Imports.contains_takeAll_iff.2
      ⟨s, List.mem_append_right _ hs, module_of_mem_classModelSteps hs, rfl⟩
  rw [hmodels s.name hmem] at hcontains
  cases hcontains

theorem oneModule_classSteps_iff : OneModule (classSteps (ClientNames.ofName client) ops clientParameters) ↔
    OneModule (introducedSteps (ClientNames.ofName client) ops) := by
  rw [classSteps_eq, oneModule_append_iff]
  constructor
  · exact fun hone => hone.1
  · refine fun hone => ⟨hone, fun s hs s' hs' _ => ?_, fun s hs s' hs' hname => ?_⟩
    · rw [module_of_mem_classModelSteps hs, module_of_mem_classModelSteps hs']
    · exact absurd (hname ▸ name_mem_introducedNames hs) (name_notMem_introducedNames hmodels hs')

theorem className_mem_classSteps_iff :
    (∃ s ∈ classSteps (ClientNames.ofName client) ops clientParameters,
        s.name = (ClientNames.ofName client).className) ↔
      ∃ s ∈ introducedSteps (ClientNames.ofName client) ops, s.name = (ClientNames.ofName client).className := by
  have hclass : (ClientNames.ofName client).className ∈ introducedNames (ClientNames.ofName client) ops :=
    List.mem_append_left _ (List.mem_append_left _ (List.mem_append_right _ (className_mem_own _)))
  rw [classSteps_eq]
  constructor
  · rintro ⟨s, hs, hname⟩
    rcases List.mem_append.1 hs with hs | hs
    · exact ⟨s, hs, hname⟩
    · exact absurd (hname ▸ hclass) (name_notMem_introducedNames hmodels hs)
  · rintro ⟨s, hs, hname⟩
    exact ⟨s, List.mem_append_left _ hs, hname⟩

/-- The names in a client class are apart exactly if its functions are called otherwise than the rest. -/
theorem nodup_classNames_iff (h : operations m = .ok ops) :
    ((classImports (ClientNames.ofName client) ops clientParameters).names ++
      [(ClientNames.ofName client).className]).Nodup ↔ FunctionsApart (ClientNames.ofName client) ops := by
  have hclass : (ClientNames.ofName client).className ∈
      (classImports (ClientNames.ofName client) ops clientParameters).names ↔
        ∃ op ∈ ops, op.name = (ClientNames.ofName client).className := by
    rw [classImports_eq, Imports.names, Imports.mem_names_takeAll_iff, className_mem_classSteps_iff hmodels,
      className_mem_introducedSteps_iff h]
  have himports : (classImports (ClientNames.ofName client) ops clientParameters).names.Nodup ↔
      OneModule (introducedSteps (ClientNames.ofName client) ops) := by
    rw [classImports_eq, Imports.names, Imports.nodup_names_takeAll_iff, oneModule_classSteps_iff hmodels]
  rw [← List.concat_eq_append, List.nodup_concat, hclass, himports, oneModule_introducedSteps_iff h,
    functionsApart_iff_steps, and_comm]
  simp [eq_comm]

end Class

/-- The types of the model that a client class imports are called otherwise than what it brings in by itself. -/
def ModelsApart (c : ClientClass) (ops : List Operation) : Prop :=
  ∀ name ∈ introducedNames c.names ops, c.imports.contains FromSource.models name = false

end Plan

/-! ## Failures of the class -/

variable {m : Service.Model} {ops : List Plan.Operation}

/-- What a client class brings in by itself has names apart exactly if the functions of operations are called otherwise
than the rest and no two options types are one. If the types of the model are called otherwise too, the class fails to
be emitted exactly if a function is not; where the client and the operations begin with letters, exactly if one is
called as the factory. -/
theorem class_names_spec (h : Plan.operations m = .ok ops) :
    let c := Plan.clientClass m ops
    ((Plan.introducedNames c.names ops).Nodup ↔
        Plan.FunctionsApart c.names ops ∧ (ops.map Plan.Operation.optionsType).Nodup) ∧
      (Plan.ModelsApart c ops →
        ((∃ e, Declarative.emit (.clientClass c) = .error e) ↔ ¬ Plan.FunctionsApart c.names ops)) ∧
      ((∀ d, c.names.base.toList.head? = some d → d.isUpper = true) →
        (∀ op ∈ ops, ∀ d, Text.initial? op.name = some d → d.isAlpha = true) →
        (Plan.FunctionsApart c.names ops ↔ c.names.factoryName ∉ ops.map Plan.Operation.name)) := by
  intro c
  refine ⟨Plan.nodup_introducedNames_iff h, fun hmodels => ?_, Plan.functionsApart_iff h⟩
  rw [exists_emit_eq_error_iff h (List.mem_cons_of_mem _ List.mem_cons_self)]
  exact not_congr (Plan.nodup_classNames_iff hmodels h)

theorem class_names_spec_things :
    let c := Plan.clientClass things plannedThings
    Plan.introducedNames c.names plannedThings = ["Pipeline", "createThings", "ThingsContext",
        "ThingsClientOptionalParams", "ThingsClient", "readThing", "ReadThingOptions"] ∧
      Plan.ModelsApart c plannedThings ∧ ¬ ∃ e, Declarative.emit (.clientClass c) = .error e := by
  have hmodels : Plan.ModelsApart (Plan.clientClass things plannedThings) plannedThings := by
    unfold Plan.ModelsApart
    decide +kernel
  obtain ⟨hnodup, hfails, _⟩ := class_names_spec operations_things
  have hapart := (hnodup.1 (by decide +kernel)).1
  exact ⟨by decide +kernel, hmodels, fun he => (hfails hmodels).1 he hapart⟩

/-- An operation with the name of the factory. -/
theorem class_names_factory :
    let ops := Plan.plannedReadings ["create-things"]
    let c := Plan.clientClass (Plan.readings ["create-things"]) ops
    Plan.operations (Plan.readings ["create-things"]) = .ok ops ∧ c.names.factoryName = "createThings" ∧
      ops.map Plan.Operation.name = ["createThings"] ∧ ¬ (Plan.introducedNames c.names ops).Nodup ∧
      Plan.ModelsApart c ops ∧ Declarative.emit (.clientClass c) =
        .error (.render "`createThings` is declared more than once in the same file") := by
  refine ⟨rfl, by decide +kernel, by decide +kernel, by decide +kernel, ?_, by decide +kernel⟩
  unfold Plan.ModelsApart
  decide +kernel

end ClientGen
