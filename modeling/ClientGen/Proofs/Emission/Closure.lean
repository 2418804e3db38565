import ClientGen.Proofs.Emission.Agreement
import ClientGen.Proofs.Emission.Closed

/-!
# Files import what they mention

Every type of the model that a planned file prints, every name that the plan makes of something in another module, and
every library name that is written in each such file is among the imports of the file.
-/

namespace ClientGen

open Plan (Operation Parameter)

/-- Where a part has its names from: its imports, and the declarations of its tree. -/
def Plan.Part.supply (part : Plan.Part) : Supply where
  imports := part.imports
  models :=
    match part with
    | .operationFile _ => FromOperation.models
    | _ => FromSource.models
  declares :=
    match part with
    | .packageJson _ => []
    | .clientDefinitions d => (Declarative.clientDefinitions d).declarations.map Source.Declaration.name
    | .clientClass c => (Declarative.clientClass c).declarations.map Source.Declaration.name
    | .operationFile f => (Declarative.operationFile f).declarations.map Source.Declaration.name

namespace Wording

/-! ## The file of an operation -/

section WithoutNames

variable {f : Supply} {op : Operation}

theorem closed_membersLine {opening : String} (hopening : NamesOnly [] opening) (members : List (String × Parameter)) :
    Closed f ([.own opening] ++ namedArguments members ++ [.own " \x7d,"]) := by
  have harguments : Closed f (namedArguments members) := by
    refine closed_joined (by decide) (List.forall_mem_map.2 fun e _ => ?_)
    simp (disch := decide)
  simp (disch := first | exact hopening | decide) [harguments]

theorem closed_bodyLine : ∀ l ∈ bodyLine op, Closed f l := by
  unfold bodyLine
  cases op.bodyParameter? <;> simp (disch := decide)

theorem closed_namedBodyLine : ∀ l ∈ namedBodyLine op, Closed f l := by
  unfold namedBodyLine
  cases op.bodyParameter? with
  | none => simp
  | some p =>
    dsimp only
    split <;> simp (disch := decide)

theorem closed_sendBody {body : List Wording} (hbody : ∀ l ∈ body, Closed f l) :
    ∀ l ∈ sendBody op body, Closed f l := by
  have hpolicy : ∀ l ∈ (if op.removesApiVersionPolicy then
      [[.own "  context.pipeline.removePolicy(\x7b name: \"ClientApiVersionPolicy\" \x7d);"]] else [] : List Wording),
      Closed f l := by
    cases op.removesApiVersionPolicy <;> simp (disch := decide)
  have hquery : ∀ l ∈ queryLine op, Closed f l := by
    unfold queryLine
    split
    · simp
    · exact List.forall_mem_singleton.2 (closed_membersLine (by decide) _)
  have hheaders : ∀ l ∈ headersLine op, Closed f l := by
    unfold headersLine
    split
    · simp
    · exact List.forall_mem_singleton.2 (closed_membersLine (by decide) _)
  have hcall : Closed f ([.own "  return context.path(", .given (Json.quoted op.path)] ++
      furtherArguments ((op.parameters.filter fun p => p.slot == .path).map Parameter.name) ++
      [.own ").", .given op.method.verb, .own "(\x7b"]) := by
    simp (disch := decide)
  have hsettings : Closed f [.own "    ...operationOptionsToRequestParameters(options),"] := by simp (disch := decide)
  have hend : Closed f [.own "  \x7d);"] := by simp (disch := decide)
  simp only [sendBody, List.forall_mem_append, List.forall_mem_cons, List.not_mem_nil, false_implies, implies_true,
    and_true]
  exact ⟨⟨⟨⟨⟨hpolicy, hcall, hsettings⟩, hquery⟩, hheaders⟩, hbody⟩, hend⟩

@[simp] theorem closed_pagingSettings (p : Plan.Paging) : Closed f (pagingSettings p) := by
  unfold pagingSettings
  cases p.nextLinkField <;> simp (disch := decide)

end WithoutNames

section OperationFile

variable {m : Service.Model} {op : Operation}

/-- Where the planned file of an operation has its names from. -/
abbrev operationSupply (m : Service.Model) (op : Operation) : Supply :=
  (Plan.Part.operationFile (Plan.operationFile m op)).supply

theorem holds_operationSteps (m : Service.Model) (op : Operation) :
    (operationSupply m op).imports.Holds (Plan.operationSteps op) := by
  change (Plan.operationImports op).Holds _
  rw [Plan.operationImports_eq]
  exact Imports.holds_takeAll _

theorem covers_operationSupply : Covers (operationSupply m op) Plan.FromOperation.options op := by
  have hsteps := holds_operationSteps m op
  have hparameters : (operationSupply m op).imports.Holds
      (Plan.parameterSteps Plan.FromOperation.models op.parameters) :=
    hsteps.mono (by simp +contextual [Plan.operationSteps])
  have hreturn : (operationSupply m op).imports.Holds (Imports.modelSteps Plan.FromOperation.models op.returnType) :=
    hsteps.mono (by simp +contextual [Plan.operationSteps])
  have hkind : (operationSupply m op).imports.Holds (Plan.kindSteps op) :=
    hsteps.mono (by simp +contextual [Plan.operationSteps])
  have hoptions : (operationSupply m op).imports.contains Plan.FromOperation.options op.optionsType = true :=
    hsteps ⟨Plan.FromOperation.options, op.optionsType, some (.type op.optionsType)⟩ (by simp [Plan.operationSteps])
  refine ⟨hparameters, hreturn, hoptions, fun name hname => ?_⟩
  have hstep : ∃ s ∈ Plan.kindSteps op, s.name = name := by
    revert hname
    unfold resultLibraryTypes Plan.kindSteps
    cases op.kind with
    | longRunning =>
      intro hname
      exact ⟨⟨Plan.longRunningLibrary, name, none⟩, List.mem_append_left _ (List.mem_map_of_mem hname), rfl⟩
    | paging => simp +contextual
    | plain => simp
  obtain ⟨s, hs, rfl⟩ := hstep
  exact ⟨s.module, hkind s hs⟩

/-- The library names in the file of an operation are among its imports. -/
theorem contains_operationLibrary (m : Service.Model) (op : Operation) :
    (operationSupply m op).imports.contains Plan.httpRuntime "StreamableMethod" = true ∧
      (op.kind = .longRunning →
        (operationSupply m op).imports.contains Plan.FromOperation.pollingHelpers "getLongRunningPoller" = true) ∧
      (op.kind = .paging →
        (operationSupply m op).imports.contains Plan.FromOperation.pagingHelpers "buildPagedAsyncIterator" = true) := by
  have hsteps := holds_operationSteps m op
  refine ⟨hsteps ⟨Plan.httpRuntime, "StreamableMethod", none⟩ ?_, fun hkind => ?_, fun hkind => ?_⟩
  · simp [Plan.operationSteps, Plan.commonSteps]
  · exact hsteps ⟨Plan.FromOperation.pollingHelpers, "getLongRunningPoller", none⟩
      (by simp [Plan.operationSteps, Plan.kindSteps, hkind])
  · exact hsteps ⟨Plan.FromOperation.pagingHelpers, "buildPagedAsyncIterator", none⟩
      (by simp [Plan.operationSteps, Plan.kindSteps, hkind])

theorem closed_declaredParameters (ho : op.Regular) :
    Closed (operationSupply m op) (declaredParameters op Plan.operationContext) := by
  have hcontext : (operationSupply m op).imports.contains Plan.httpRuntime Plan.operationContext = true :=
    holds_operationSteps m op ⟨Plan.httpRuntime, Plan.operationContext, none⟩
      (by simp [Plan.operationSteps, Plan.commonSteps])
  have hdeclarations := closed_declarations (@covers_operationSupply m op) ho
  simp (disch := decide) [declaredParameters, hcontext, hdeclarations]

/-- The file of an operation declares its three functions. -/
theorem declares_operationSupply (m : Service.Model) (op : Operation) :
    (operationSupply m op).declares = [op.sendName, op.deserializeName, op.name] := rfl

theorem closed_sendCall : Closed (operationSupply m op) (sendCall op) := by
  have hname : op.sendName ∈ (operationSupply m op).declares := by simp [declares_operationSupply]
  simp (disch := decide) [sendCall, hname]

theorem closed_sendLines (ho : op.Regular) {body : List Wording} (hbody : ∀ l ∈ body, Closed (operationSupply m op) l) :
    ∀ l ∈ sendLines op body Plan.operationContext, Closed (operationSupply m op) l := by
  have hname : op.sendName ∈ (operationSupply m op).declares := by simp [declares_operationSupply]
  have hresult : (Stretch.own "): StreamableMethod \x7b").Closed (operationSupply m op) :=
    closed_own (by decide) (List.forall_mem_singleton.2 ⟨_, (contains_operationLibrary m op).1⟩)
  have hopening : Closed (operationSupply m op) ([.own "export function ", .declared op.sendName, .own "("] ++
      declaredParameters op Plan.operationContext ++ [.own "): StreamableMethod \x7b"]) := by
    simp (disch := decide) [closed_declaredParameters ho, hname, hresult]
  have hend : Closed (operationSupply m op) [.own "\x7d"] := by simp (disch := decide)
  simp only [sendLines, List.forall_mem_append, List.forall_mem_singleton]
  exact ⟨⟨hopening, closed_sendBody hbody⟩, hend⟩

theorem closed_deserializeLines : ∀ l ∈ deserializeLines op, Closed (operationSupply m op) l := by
  have hname : op.deserializeName ∈ (operationSupply m op).declares := by simp [declares_operationSupply]
  have hpromise : (operationSupply m op).imports.Holds
      (Imports.modelSteps Plan.FromOperation.models op.deserializeType) :=
    (holds_operationSteps m op).mono (by simp +contextual [Plan.operationSteps])
  have htype : (Stretch.type op.resultType).Closed (operationSupply m op) :=
    @closed_type_inside _ "Promise<" _ ">" hpromise (by simp [isTypeChar]) (by simp [isTypeChar])
  simp (disch := decide) [deserializeLines, hname, htype]

theorem closed_callBody : ∀ l ∈ callBody op, Closed (operationSupply m op) l := by
  have hname : op.deserializeName ∈ (operationSupply m op).declares := by simp [declares_operationSupply]
  have hresult := closed_returnType (@covers_operationSupply m op)
  obtain ⟨_, hpoller, hpages⟩ := contains_operationLibrary m op
  unfold callBody
  cases hkind : op.kind with
  | longRunning =>
    have hopening : (Stretch.own "  return getLongRunningPoller(context, ").Closed (operationSupply m op) :=
      closed_own (by decide) (List.forall_mem_singleton.2 ⟨_, hpoller hkind⟩)
    simp (disch := decide) [hname, closed_sendCall, hresult, hopening]
  | paging =>
    have hopening : (Stretch.own "  return buildPagedAsyncIterator(").Closed (operationSupply m op) :=
      closed_own (by decide) (List.forall_mem_singleton.2 ⟨_, hpages hkind⟩)
    simp (disch := decide) [closed_flatMap, hname, closed_sendCall, hopening]
  | plain => simp (disch := decide) [hname, closed_sendCall]

theorem closed_callLines (ho : op.Regular) :
    ∀ l ∈ callLines op Plan.operationContext, Closed (operationSupply m op) l := by
  have hname : op.name ∈ (operationSupply m op).declares := by simp [declares_operationSupply]
  have hcall : (Stretch.own (Baseline.callOpening op)).Closed (operationSupply m op) := by
    unfold Baseline.callOpening
    split <;> simp (disch := decide)
  have hopening : Closed (operationSupply m op) ([.own (Baseline.callOpening op), .declared op.name, .own "("] ++
      declaredParameters op Plan.operationContext ++ [.own "): "] ++ returnType op ++ [.own " \x7b"]) := by
    simp (disch := decide) [hcall, hname, closed_declaredParameters ho, closed_returnType covers_operationSupply]
  have hend : Closed (operationSupply m op) [.own "\x7d"] := by simp (disch := decide)
  simp only [callLines, List.forall_mem_append, List.forall_mem_singleton]
  exact ⟨⟨hopening, closed_callBody⟩, hend⟩

theorem closed_ofOperationFile (ho : op.Regular) {body : List Wording}
    (hbody : ∀ l ∈ body, Closed (operationSupply m op) l) :
    Closed (operationSupply m op) (ofOperationFile body (Plan.operationFile m op)) := by
  have hempty : ∀ l ∈ ([[]] : List Wording), Closed (operationSupply m op) l := by simp
  have hlines : ∀ l ∈ sendLines op body Plan.operationContext ++ [[]] ++ deserializeLines op ++ [[]],
      Closed (operationSupply m op) l := by
    simp only [List.forall_mem_append]
    exact ⟨⟨⟨closed_sendLines ho hbody, hempty⟩, closed_deserializeLines⟩, hempty⟩
  exact closed_append.2 ⟨closed_append.2 ⟨closed_unlines hlines, closed_described _ _⟩,
    closed_unlines (closed_callLines ho)⟩

end OperationFile

/-! ## Files of the source folder -/

/-- A file that takes up the imports of the operations of a client covers each of them. -/
theorem covers_of_holds {f : Supply} {ops : List Operation} (hmodels : f.models = Plan.FromSource.models)
    (hreturn : f.imports.Holds (Plan.returnSteps ops)) (hoptions : f.imports.Holds (Plan.optionsSteps ops))
    (hsignature : f.imports.Holds (Plan.signatureSteps ops)) {op : Operation} (hop : op ∈ ops) :
    Covers f Plan.FromSource.options op := by
  have hsteps := Imports.holds_flatMap.1 hsignature op hop
  rw [← hmodels, Imports.holds_append] at hsteps
  refine ⟨hsteps.1, hsteps.2, Imports.holds_map.1 hoptions op hop, fun name hname => ?_⟩
  unfold resultLibraryTypes at hname
  unfold Plan.returnSteps at hreturn
  obtain ⟨hlong, hpages⟩ := Imports.holds_append.1 hreturn
  cases hkind : op.kind with
  | longRunning =>
    have hany : (ops.any fun op => op.kind == .longRunning) = true := List.any_eq_true.2 ⟨op, hop, by simp [hkind]⟩
    rw [if_pos hany] at hlong
    rw [hkind] at hname
    exact ⟨_, Imports.holds_map.1 hlong name hname⟩
  | paging =>
    have hany : (ops.any fun op => op.kind == .paging) = true := List.any_eq_true.2 ⟨op, hop, by simp [hkind]⟩
    rw [if_pos hany] at hpages
    rw [hkind] at hname
    rw [List.mem_singleton.1 hname]
    exact ⟨_, hpages _ (List.mem_singleton_self _)⟩
  | plain => simp [hkind] at hname

section ClientClass

variable {m : Service.Model} {ops : List Operation}

/-- Where the planned file of a client class has its names from. -/
abbrev classSupply (m : Service.Model) (ops : List Operation) : Supply :=
  (Plan.Part.clientClass (Plan.clientClass m ops)).supply

theorem holds_classSteps (m : Service.Model) (ops : List Operation) :
    (classSupply m ops).imports.Holds (Plan.classSteps (Plan.ClientNames.ofName m.clientName) ops
      (Plan.clientClass m ops).clientParameters) := by
  change (Plan.classImports _ ops _).Holds _
  rw [Plan.classImports_eq]
  exact Imports.holds_takeAll _

theorem covers_classSupply {op : Operation} (hop : op ∈ ops) :
    Covers (classSupply m ops) Plan.FromSource.options op := by
  have hsteps := holds_classSteps m ops
  exact covers_of_holds rfl (hsteps.mono (by simp +contextual [Plan.classSteps]))
    (hsteps.mono (by simp +contextual [Plan.classSteps])) (hsteps.mono (by simp +contextual [Plan.classSteps])) hop

/-- The class takes what its client is made of from the index. -/
theorem contains_clientNames (m : Service.Model) (ops : List Operation) {name : String}
    (hname : name = (Plan.clientClass m ops).names.factoryName ∨ name = (Plan.clientClass m ops).names.contextType ∨
      name = (Plan.clientClass m ops).names.optionalParamsType) :
    (classSupply m ops).imports.contains Plan.FromSource.apiIndex name = true := by
  have hclient : (classSupply m ops).imports.Holds (Plan.clientSteps (Plan.ClientNames.ofName m.clientName)) :=
    (holds_classSteps m ops).mono (by simp +contextual [Plan.classSteps])
  simp only [Imports.Holds, Plan.clientSteps, List.forall_mem_cons] at hclient
  obtain ⟨hfactory, hcontext, hoptional, _⟩ := hclient
  rcases hname with rfl | rfl | rfl
  · exact hfactory
  · exact hcontext
  · exact hoptional

theorem isOptions_of_mem_clientParameters (h : Plan.operations m = .ok ops) {op : Operation} (hop : op ∈ ops)
    {p : Parameter} (hp : p ∈ op.clientParameters) : p.isOptions = false := by
  obtain ⟨e, _, hplan⟩ := exists_mem_of_forall₂ (Plan.operations_eq_ok_iff.1 h).1 hop
  obtain ⟨_, _, hshaped⟩ := exists_mem_of_forall₂ (Plan.shaped_clientParameters hplan) hp
  exact Plan.isOptions_of_shapeParameter hshaped

theorem closed_clientParameters (h : Plan.operations m = .ok ops) :
    ∀ p ∈ (Plan.clientClass m ops).clientParameters, (typeOf Plan.FromSource.options p).Closed (classSupply m ops) := by
  intro p hp
  have hmem : p ∈ ops.flatMap Operation.clientParameters :=
    List.mem_of_find?_eq_some ((Plan.firstByName_distinctParameters _).first p hp)
  obtain ⟨op, hop, hpop⟩ := List.mem_flatMap.1 hmem
  rw [typeOf, if_neg (by simp [isOptions_of_mem_clientParameters h hop hpop])]
  have hparameters := (Imports.holds_append.1 (holds_classSteps m ops)).2
  exact closed_type (Imports.holds_flatMap.1 hparameters p hp)

theorem closed_classHead (h : Plan.operations m = .ok ops) :
    ∀ l ∈ classHead (Plan.clientClass m ops), Closed (classSupply m ops) l := by
  have hname : (Plan.clientClass m ops).names.className ∈ (classSupply m ops).declares := List.mem_singleton_self _
  have hparameters : Closed (classSupply m ops) ((Plan.clientClass m ops).clientParameters.flatMap fun p =>
      .own ", " :: signature Plan.FromSource.options p) := by
    refine closed_flatMap.2 fun p hp => closed_cons.2 ⟨(closed_own_iff (by decide)).2 trivial, ?_⟩
    exact closed_signature (closed_clientParameters h p hp)
  simp (disch := decide) [classHead, hname, hparameters, contains_clientNames m ops (.inl rfl),
    contains_clientNames m ops (.inr (.inl rfl)), contains_clientNames m ops (.inr (.inr rfl))]

theorem closed_methodCode {op : Operation} (hop : op ∈ ops) (ho : op.Regular) :
    ∀ l ∈ methodCode op, Closed (classSupply m ops) l := by
  have hparameters := closed_declarations (@covers_classSupply m ops op hop) ho
  have hresult := closed_returnType (@covers_classSupply m ops op hop)
  have hfunctions : (classSupply m ops).imports.Holds (Plan.functionSteps ops) :=
    (holds_classSteps m ops).mono (by simp +contextual [Plan.classSteps])
  have hfunction : (classSupply m ops).imports.contains (Plan.FromSource.operation op.name) op.name = true :=
    Imports.holds_map.1 hfunctions op hop
  simp (disch := decide) [methodCode, hparameters, hresult, hfunction]

theorem closed_ofClientClass (h : Plan.operations m = .ok ops) :
    Closed (classSupply m ops) (ofClientClass (Plan.clientClass m ops)) := by
  have hmethod : ∀ op ∈ ops, Closed (classSupply m ops) (ofMethod op) := by
    intro op hop
    have hcode : ∀ l ∈ methodCode op, Closed (classSupply m ops) l :=
      closed_methodCode hop (Plan.regular_of_mem_operations h hop)
    exact closed_append.2 ⟨closed_append.2 ⟨closed_unlines (by simp), closed_described _ _⟩, closed_unlines hcode⟩
  exact closed_append.2 ⟨closed_append.2 ⟨closed_append.2 ⟨by simp, closed_unlines (closed_classHead h)⟩,
    closed_flatMap.2 hmethod⟩, closed_unlines (by simp (disch := decide))⟩

end ClientClass

section ClientDefinitions

variable {m : Service.Model} {ops : List Operation}

/-- Where the planned file of client definitions has its names from. -/
abbrev definitionsSupply (m : Service.Model) (ops : List Operation) : Supply :=
  (Plan.Part.clientDefinitions (Plan.clientDefinitions m ops)).supply

theorem holds_definitionsSteps (m : Service.Model) (ops : List Operation) :
    (definitionsSupply m ops).imports.Holds (Plan.definitionsSteps (Plan.routes m ops) ops) := by
  change (Plan.definitionsImports _ ops).Holds _
  rw [Plan.definitionsImports_eq]
  exact Imports.holds_takeAll _

theorem covers_definitionsSupply {op : Operation} (hop : op ∈ ops) :
    Covers (definitionsSupply m ops) Plan.FromSource.options op := by
  have hsteps := holds_definitionsSteps m ops
  exact covers_of_holds rfl (hsteps.mono (by simp +contextual [Plan.definitionsSteps]))
    (hsteps.mono (by simp +contextual [Plan.definitionsSteps]))
    (hsteps.mono (by simp +contextual [Plan.definitionsSteps])) hop

/-- The file declares the interface of the routes, one for each group, and the type of the client. -/
theorem mem_declares_definitionsSupply {name : String} : name ∈ (definitionsSupply m ops).declares ↔
    name = "Routes" ∨ name ∈ (Plan.groups ops).map Plan.Group.interfaceName ∨
      name = (Plan.clientDefinitions m ops).names.contextType := by
  simp [Plan.Part.supply, Declarative.clientDefinitions, Declarative.interfaceOf, Plan.clientDefinitions]

theorem closed_routeTypes {r : Plan.Route} (hr : r ∈ Plan.routes m ops) :
    (∀ p ∈ r.parameters, (Stretch.type p.type).Closed (definitionsSupply m ops)) ∧
      ∀ type ∈ r.responseTypes, (Stretch.type type).Closed (definitionsSupply m ops) := by
  have hroutes : (definitionsSupply m ops).imports.Holds ((Plan.routes m ops).flatMap Plan.routeSteps) :=
    (holds_definitionsSteps m ops).mono fun s hs => by
      simp only [Plan.definitionsSteps, List.mem_append, hs, or_true, true_or]
  obtain ⟨hparameters, hresponses⟩ := Imports.holds_append.1 (Imports.holds_flatMap.1 hroutes r hr)
  exact ⟨fun p hp => closed_type (Imports.holds_flatMap.1 hparameters p hp),
    fun type htype => closed_type (Imports.holds_flatMap.1 hresponses type htype)⟩

theorem closed_routeType {r : Plan.Route} (hr : r ∈ Plan.routes m ops) :
    Closed (definitionsSupply m ops) (routeType r) := by
  have hlibrary : (definitionsSupply m ops).imports.contains Plan.httpRuntime "StreamableMethod" = true :=
    holds_definitionsSteps m ops ⟨Plan.httpRuntime, "StreamableMethod", none⟩ (by simp [Plan.definitionsSteps])
  have hopening : (Stretch.own "StreamableMethod<").Closed (definitionsSupply m ops) :=
    closed_own (by decide) (List.forall_mem_singleton.2 ⟨_, hlibrary⟩)
  have htypes : Closed (definitionsSupply m ops) (joined " | " (r.responseTypes.map fun t => [.type t])) := by
    refine closed_joined (by decide) (List.forall_mem_map.2 fun type htype => ?_)
    simp [(closed_routeTypes hr).2 type htype]
  unfold routeType
  split <;> simp (disch := decide) [hopening, htypes]

theorem closed_ofRoute {r : Plan.Route} (hr : r ∈ Plan.routes m ops) :
    Closed (definitionsSupply m ops) (ofRoute r) := by
  have hparameters : Closed (definitionsSupply m ops)
      (r.parameters.flatMap fun p => [.own ", ", .given p.name, .own ": ", .type p.type]) := by
    refine closed_flatMap.2 fun p hp => ?_
    simp (disch := decide) [(closed_routeTypes hr).1 p hp]
  refine closed_cons.2 ⟨trivial, closed_unlines (List.forall_mem_singleton.2 ?_)⟩
  simp (disch := decide) [hparameters, closed_routeType hr]

theorem closed_ofGroupMember {op : Operation} (hop : op ∈ ops) (ho : op.Regular) :
    Closed (definitionsSupply m ops) (ofGroupMember op) := by
  have hparameters := closed_signatures (@covers_definitionsSupply m ops op hop) ho
  have hresult := closed_returnType (@covers_definitionsSupply m ops op hop)
  refine closed_append.2 ⟨closed_described _ _, closed_unlines (List.forall_mem_singleton.2 ?_)⟩
  simp (disch := decide) [hparameters, hresult]

theorem closed_ofGroup (h : Plan.operations m = .ok ops) {g : Plan.Group} (hg : g ∈ Plan.groups ops) :
    Closed (definitionsSupply m ops) (ofGroup g) := by
  have hname : g.interfaceName ∈ (definitionsSupply m ops).declares :=
    mem_declares_definitionsSupply.2 (.inr (.inl (List.mem_map_of_mem hg)))
  have hmembers : Closed (definitionsSupply m ops) (g.operations.flatMap ofGroupMember) := by
    refine closed_flatMap.2 fun op hop => ?_
    have hmem : op ∈ ops := (Plan.groupsApart_groups ops).perm.mem_iff.1 (List.mem_flatMap.2 ⟨g, hg, hop⟩)
    exact closed_ofGroupMember hmem (Plan.regular_of_mem_operations h hmem)
  exact closed_append.2 ⟨closed_append.2 ⟨closed_unlines (by simp (disch := decide) [hname]), hmembers⟩,
    closed_unlines (by simp (disch := decide))⟩

theorem closed_clientType (m : Service.Model) (ops : List Operation) :
    Closed (definitionsSupply m ops) (clientType (Plan.clientDefinitions m ops)) := by
  have hroutes : "Routes" ∈ (definitionsSupply m ops).declares := mem_declares_definitionsSupply.2 (.inl rfl)
  have hshortcut : ∀ g ∈ Plan.groups ops, Closed (definitionsSupply m ops) (shortcut g) := by
    intro g hg
    have hname : g.interfaceName ∈ (definitionsSupply m ops).declares :=
      mem_declares_definitionsSupply.2 (.inr (.inl (List.mem_map_of_mem hg)))
    unfold shortcut
    cases g.property <;> simp (disch := decide) [hname]
  have hshortcuts : Closed (definitionsSupply m ops) (if m.options.includeShortcuts then
      (Plan.groups ops).flatMap fun g => .own " & " :: shortcut g else []) := by
    split
    · exact closed_flatMap.2 fun g hg => closed_cons.2 ⟨(closed_own_iff (by decide)).2 trivial, hshortcut g hg⟩
    · exact closed_nil.2 trivial
  exact closed_append.2 ⟨by simp (disch := decide) [hroutes], hshortcuts⟩

theorem closed_ofClientDefinitions (h : Plan.operations m = .ok ops) :
    Closed (definitionsSupply m ops) (ofClientDefinitions (Plan.clientDefinitions m ops)) := by
  have hroutes : "Routes" ∈ (definitionsSupply m ops).declares := mem_declares_definitionsSupply.2 (.inl rfl)
  have hcontext : (Plan.clientDefinitions m ops).names.contextType ∈ (definitionsSupply m ops).declares :=
    mem_declares_definitionsSupply.2 (.inr (.inr rfl))
  refine closed_append.2 ⟨closed_append.2 ⟨closed_append.2 ⟨closed_append.2 ⟨closed_unlines ?_,
    closed_flatMap.2 fun r hr => closed_ofRoute hr⟩, closed_unlines ?_⟩,
    closed_flatMap.2 fun g hg => closed_ofGroup h hg⟩, closed_unlines ?_⟩
  · simp (disch := decide) [hroutes]
  · simp (disch := decide)
  · simp (disch := decide) [hcontext, closed_clientType]

end ClientDefinitions

end Wording

/-! ## The closure of the imports -/

open Wording (importText bodyLine namedBodyLine)

variable {m : Service.Model} {ops : List Operation}

/-- A planned part imports all that stands in it, whichever way the line for the body of a request is written. -/
theorem closed_ofPart (h : Plan.operations m = .ok ops) {part : Plan.Part} (hpart : part ∈ Plan.sourceParts m ops)
    {body : Operation → List Wording} (hbody : ∀ op, ∀ l ∈ body op, l.Closed part.supply) :
    (Wording.ofPart body part).Closed part.supply := by
  rcases Plan.mem_sourceParts_iff.1 hpart with rfl | rfl | ⟨op, hop, rfl⟩
  · exact Wording.closed_ofClientDefinitions h
  · exact Wording.closed_ofClientClass h
  · exact Wording.closed_ofOperationFile (Plan.regular_of_mem_operations h hop) (hbody op)

/-- The imports of every planned file are closed. Behind its imports a file of source code is a wording in which every
type of the model, every name that the plan makes of something elsewhere and every library name that the generator
writes is imported; so it is with templates, and with trees wherever they render. -/
theorem emit_imports_closed (h : Plan.operations m = .ok ops) {part : Plan.Part}
    (hpart : part ∈ Plan.sourceParts m ops) :
    ((Wording.ofPart namedBodyLine part).Closed part.supply ∧ Baseline.emit part = .ok ⟨part.path,
      importText part.imports ++ (Wording.ofPart namedBodyLine part).write Comment.slashed⟩) ∧
    (Wording.ofPart bodyLine part).Closed part.supply ∧ ∀ file, Declarative.emit part = .ok file →
      file = ⟨part.path, importText part.imports ++ (Wording.ofPart bodyLine part).write Comment.starred⟩ := by
  -- The two ways of emitting differ in the line for a body without a name, so that each has a wording of its own.
  refine ⟨⟨closed_ofPart h hpart fun _ => Wording.closed_namedBodyLine, ?_⟩,
    closed_ofPart h hpart fun _ => Wording.closed_bodyLine, fun file hfile => ?_⟩
  · have hlines : Baseline.bodyLine = fun op => (namedBodyLine op).map (Wording.write Comment.slashed) :=
      funext fun _ => Wording.map_write_namedBodyLine.symm
    rw [Outline.emit_baseline_eq, Outline.ofPart_eq, hlines, Wording.write_ofPart hpart]
  · have hlines : Declarative.bodyTexts = fun op => (bodyLine op).map (Wording.write Comment.starred) :=
      funext fun _ => Wording.map_write_bodyLine.symm
    obtain ⟨hpath, hcontent⟩ := content_eq_of_emit_declarative h hpart hfile
    rw [hlines, Wording.write_ofPart hpart] at hcontent
    rw [← hpath, ← hcontent]

def runReport : Service.Operation where
  name := "runReport"
  method := .post
  description := none
  response := ⟨"ReportJob", []⟩
  parameters := [⟨"query", "ReportQuery", "body", false, false, none, false⟩]
  longRunning := some ⟨some "Report", none⟩
  paging := none

def listReports : Service.Operation where
  name := "listReports"
  method := .get
  description := none
  response := ⟨"ReportList", []⟩
  parameters := []
  longRunning := none
  paging := some ⟨"value", some "nextLink", some "Report"⟩

/-- A model with a long-running and a paging operation. -/
def reports : Service.Model :=
  { things with paths := ⟨[("/reports", ⟨"report", none, [], [runReport, listReports]⟩)], by simp⟩ }

def plannedReports : List Operation :=
  [Plan.plannedOperation "runReport" "/reports" none runReport [(false, ⟨"query", "ReportQuery", false, .body⟩)],
    Plan.plannedOperation "listReports" "/reports" none listReports []]

/-- Model types and names of libraries stand in a part, which imports them all. A name is given between the characters
that stand around it in the words of the generator. -/
structure Plan.Part.Uses (part : Plan.Part) (types : List String) (names : List (String × String × String)) : Prop where
  types : ∀ type ∈ types, .type type ∈ Wording.ofPart bodyLine part ∧
    part.imports.contains part.supply.models type = true
  names : ∀ e ∈ names, .own (e.1 ++ e.2.1 ++ e.2.2) ∈ Wording.ofPart bodyLine part ∧
    ∃ module, part.imports.contains module e.2.1 = true

/-- In the file of a plain operation, and in files that have to do with a long-running and with a paging one. -/
theorem emit_imports_closed_things :
    (Plan.operations things = .ok plannedThings ∧
      ∀ part ∈ Plan.sourceParts things plannedThings, Declarative.emit part = .ok ⟨part.path,
        importText part.imports ++ (Wording.ofPart bodyLine part).write Comment.starred⟩ ∧
      .type "Thing" ∈ Wording.ofPart bodyLine part ∧ part.imports.contains part.supply.models "Thing" = true) ∧
    Plan.operations reports = .ok plannedReports ∧
      (Plan.Part.clientDefinitions (Plan.clientDefinitions reports plannedReports)).Uses
        ["ReportJob", "ReportList", "ReportQuery", "Report"]
        [("", "StreamableMethod", "<"), ("", "PollerLike", "<OperationState<"), ("PollerLike<", "OperationState", "<"),
          ("", "PagedAsyncIterableIterator", "<")] ∧
      (Plan.Part.clientClass (Plan.clientClass reports plannedReports)).Uses ["ReportQuery", "Report"]
        [("", "PollerLike", "<OperationState<"), ("PollerLike<", "OperationState", "<"),
          ("", "PagedAsyncIterableIterator", "<")] ∧
      List.Forall₂ (fun part (e : List String × List (String × String × String)) => part.Uses e.1 e.2)
        (Plan.operationParts reports plannedReports)
        [(["ReportQuery", "Report"],
          [("): ", "StreamableMethod", " \x7b"), ("", "PollerLike", "<OperationState<"),
            ("PollerLike<", "OperationState", "<"), ("  return ", "getLongRunningPoller", "(context, ")]),
         (["ReportList", "Report"],
          [("): ", "StreamableMethod", " \x7b"), ("", "PagedAsyncIterableIterator", "<"),
            ("  return ", "buildPagedAsyncIterator", "(")])] := by
  have hthings : ∀ part ∈ Plan.sourceParts things plannedThings, .type "Thing" ∈ Wording.ofPart bodyLine part := by
    decide +kernel
  have hreports : Plan.operations reports = .ok plannedReports := rfl
  have huses : ∀ part ∈ Plan.sourceParts reports plannedReports, ∀ types names,
      (∀ type ∈ types, .type type ∈ Wording.ofPart bodyLine part ∧ type.toList.all isTypeChar = true ∧
        type.toList.head?.any Char.isUpper = true ∧ type ∉ builtinTypes) →
      (∀ e ∈ names, .own (e.1 ++ e.2.1 ++ e.2.2) ∈ Wording.ofPart bodyLine part ∧ e.2.1 ∈ libraryNames ∧
        e.1.toList.getLast?.any isTypeChar = false ∧ e.2.2.toList.head?.any isTypeChar = false) →
      part.Uses types names := by
    intro part hpart types names htypes hnames
    obtain ⟨_, hclosed, _⟩ := emit_imports_closed hreports hpart
    refine ⟨fun type htype => ?_, fun e he => ?_⟩
    · obtain ⟨hmem, hchars, hupper, hbuiltin⟩ := htypes type htype
      exact ⟨hmem, (hclosed _ hmem type (isRun_self (List.all_eq_true.1 hchars)) hupper).resolve_left hbuiltin⟩
    · obtain ⟨hmem, hlibrary, hbefore, hafter⟩ := hnames e he
      have hchars : ∀ name ∈ libraryNames, name.toList.all isTypeChar = true := by decide
      have hrun : IsRun e.2.1 e.2.1 := isRun_self (List.all_eq_true.1 (hchars _ hlibrary))
      have hrun' : IsRun e.2.1 (e.1 ++ e.2.1 ++ e.2.2) :=
        hrun.inside (by simpa [Option.any_eq_false] using hbefore) (by simpa [Option.any_eq_false] using hafter)
      exact ⟨hmem, hclosed _ hmem _ hlibrary hrun'⟩
  refine ⟨⟨operations_things, fun part hpart => ?_⟩, hreports, ?_, ?_, .cons ?_ (.cons ?_ .nil)⟩
  · obtain ⟨_, hclosed, hcontent⟩ := emit_imports_closed operations_things hpart
    obtain ⟨file, hfile⟩ := Declarative.exists_emit_of_all (by decide +kernel) part hpart
    have hrun : IsRun "Thing" "Thing" := isRun_self (List.all_eq_true.1 (by decide))
    refine ⟨hcontent file hfile ▸ hfile, hthings part hpart, ?_⟩
    exact (hclosed _ (hthings part hpart) "Thing" hrun rfl).resolve_left (by decide)
  · exact huses _ (by simp [Plan.sourceParts]) _ _ (by decide +kernel) (by decide +kernel)
  · exact huses _ (by simp [Plan.sourceParts]) _ _ (by decide +kernel) (by decide +kernel)
  · exact huses _ (by simp [Plan.sourceParts, Plan.operationParts, plannedReports]) _ _ (by decide +kernel)
      (by decide +kernel)
  · exact huses _ (by simp [Plan.sourceParts, Plan.operationParts, plannedReports]) _ _ (by decide +kernel)
      (by decide +kernel)

end ClientGen
