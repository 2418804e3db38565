import ClientGen.Proofs.Baseline.Sections
import ClientGen.Proofs.Emission.Capture
import ClientGen.Proofs.Plan.Definitions
import ClientGen.Proofs.Source.Locals

/-!
# Local names in planned files

A function of an operation declares the context, the parameters of the operation and its options, and one that awaits a
result declares that too. The constructor of the client declares the endpoint and what operations bind at the client.
Both ways of emitting declare the same names. Only `context` and `options` are kept from the parameters of a model, so
that a parameter may be called like the result or like the endpoint.
-/

namespace ClientGen

open Source (Code constantIn? localNames beginsOtherwise constantIn?_append constantIn?_of_beginsOtherwise
  constantIn?_blanks_append)
open Plan (Operation Parameter)

/-! ## Constants of the bodies -/

theorem constantIn?_quotedList (l : List String) (t : String) : constantIn? (Json.quotedList l ++ t) = none := by
  unfold Json.quotedList
  simp (disch := decide) only [String.append_assoc, constantIn?_append]

namespace Declarative

variable {i : Imports} {s : String} {op : Operation}

theorem constants_membersLine {label : String} (h : beginsOtherwise label = true)
    (members : List (String × Parameter)) : (membersLine s label members).filterMap Code.constant? = [] := by
  have hlabel : constantIn? ("  " ++ label ++ ": \x7b ") = none := by
    rw [String.append_assoc, constantIn?_blanks_append (by decide), constantIn?_append h]
  unfold membersLine
  split
  · rfl
  · simp [List.append_assoc, hlabel]

theorem constants_sendBody (op : Operation) (s : String) : (sendBody op s).filterMap Code.constant? = [] := by
  have hpolicy : (if op.removesApiVersionPolicy then
      [paramRef s "context" ++ Code.text ".pipeline.removePolicy(\x7b name: \"ClientApiVersionPolicy\" \x7d);"]
        else []).filterMap Code.constant? = [] := by
    split <;> rfl
  have hbody : (bodyLine op s).filterMap Code.constant? = [] := by
    unfold bodyLine
    split
    · simp (disch := decide) [constantIn?_of_beginsOtherwise, List.append_assoc]
    · rfl
  simp (disch := decide) [sendBody, hpolicy, hbody, constants_membersLine, constantIn?_of_beginsOtherwise,
    -List.filterMap_eq_nil_iff, List.filterMap_cons, List.append_assoc]

theorem constants_deserializeBody (op : Operation) (s : String) :
    (deserializeBody op s).filterMap Code.constant? = ["expectedStatuses"] := by
  have hconstant : constantIn? ("const expectedStatuses = " ++ Json.quotedList op.expectedStatuses ++ ";") =
      some "expectedStatuses" := by
    simp [constantIn?, Text.after?]
  simp (disch := decide) [deserializeBody, hconstant, constantIn?_of_beginsOtherwise, List.append_assoc,
    List.filterMap_cons]

theorem constantIn?_pagingSettings (op : Operation) (t : String) : constantIn? (pagingSettings op ++ t) = none := by
  unfold pagingSettings
  split <;> simp (disch := decide) only [String.append_assoc, constantIn?_append]

theorem constants_callBody (op : Operation) (s : String) (i : Imports) :
    (callBody op s i).filterMap Code.constant? = if op.kind = .plain then ["result"] else [] := by
  have hresult : constantIn? "const result = await " = some "result" := by decide
  have hblank : constantIn? "  " = none := by decide
  unfold callBody
  cases op.kind with
  | plain => simp (disch := decide) [hresult, constantIn?_of_beginsOtherwise, List.append_assoc, List.filterMap_cons]
  | longRunning => simp (disch := decide) [constantIn?_of_beginsOtherwise, List.append_assoc]
  | paging =>
    simp (disch := decide) [hblank, constantIn?_of_beginsOtherwise, constantIn?_blanks_append, constantIn?_quotedList,
      constantIn?_pagingSettings, List.append_assoc, String.append_assoc]

end Declarative

namespace Baseline

variable {op : Operation}

theorem constants_membersLine {label : String} (h : beginsOtherwise label = true)
    (members : List (String × Parameter)) : (membersLine label members).filterMap constantIn? = [] := by
  have hline : constantIn? ("    " ++ label ++ ": \x7b " ++ namedArguments members ++ " \x7d,") = none := by
    simp only [String.append_assoc]
    rw [constantIn?_blanks_append (by decide), constantIn?_append h]
  unfold membersLine
  split
  · rfl
  · simp [hline]

theorem constants_sendBody (op : Operation) : (sendBody op).filterMap constantIn? = [] := by
  have hpolicy : (if op.removesApiVersionPolicy then
      ["  context.pipeline.removePolicy(\x7b name: \"ClientApiVersionPolicy\" \x7d);"] else []).filterMap constantIn? =
        [] := by
    split
    · decide
    · rfl
  have hbody : (bodyLine op).filterMap constantIn? = [] := by
    unfold bodyLine
    split
    · split
      · rfl
      · simp (disch := decide) [String.append_assoc, constantIn?_append]
    · rfl
  simp (disch := decide) [sendBody, hpolicy, hbody, constants_membersLine, constantIn?_append,
    -List.filterMap_eq_nil_iff, List.filterMap_cons, String.append_assoc]

theorem constants_deserializeBody (op : Operation) :
    (deserializeBody op).filterMap constantIn? = ["expectedStatuses"] := by
  have hconstant : constantIn? ("  const expectedStatuses = " ++ (Json.quotedList op.expectedStatuses ++ ";")) =
      some "expectedStatuses" := by
    simp [constantIn?, Text.after?]
  simp (disch := decide) [deserializeBody, hconstant, constantIn?_append, String.append_assoc, List.filterMap_cons]

theorem constants_callBody (op : Operation) :
    (callBody op).filterMap constantIn? = if op.kind = .plain then ["result"] else [] := by
  unfold callBody
  cases hkind : op.kind with
  | plain =>
    have hresult : constantIn? ("  const result = await " ++ (op.sendName ++ ("(" ++ (arguments op ++ ");")))) =
        some "result" := by
      simp [constantIn?, Text.after?]
    simp (disch := decide) [hresult, constantIn?_append, String.append_assoc, List.filterMap_cons]
  | longRunning =>
    simp (disch := decide) [constantIn?_of_beginsOtherwise, constantIn?_append, String.append_assoc]
  | paging =>
    obtain ⟨p, hp⟩ := Declarative.exists_paging_of_kind hkind
    simp (disch := decide) [hp, ← Declarative.pagingSettings_eq hp, Declarative.constantIn?_pagingSettings,
      constantIn?_of_beginsOtherwise, constantIn?_append, constantIn?_blanks_append, constantIn?_quotedList,
      Operation.deserializeName, String.append_assoc]

end Baseline

/-! ## Local names of a part -/

/-- The local names of the functions, methods and constructors in a file of source code. -/
def Plan.Part.locals : Plan.Part → List (List String)
  | .packageJson _ => []
  | .clientDefinitions d => d.groups.flatMap fun g => g.operations.map Operation.argumentNames
  | .clientClass c =>
    ("endpointParam" :: c.clientParameters.map Parameter.name ++ ["options"]) ::
      c.operations.map Operation.argumentNames
  | .operationFile f =>
    ["context" :: f.operation.argumentNames, ["result", "expectedStatuses"],
      "context" :: f.operation.argumentNames ++ if f.operation.kind = .plain then ["result"] else []]

namespace Baseline

/-- The parameters and the constants of the body. -/
def Routine.locals (r : Routine) : List String := r.parameters.map Prod.fst ++ r.body.filterMap constantIn?

def Section.locals : Section → List (List String)
  | .other _ => []
  | .routine r => [r.locals]

theorem names_declared (ps : List Parameter) : (declared ps).map Prod.fst = ps.map Parameter.name := by
  simp [declared, Function.comp_def]

theorem names_annotated (ps : List Parameter) : (annotated ps).map Prod.fst = ps.map Parameter.name := by
  simp [annotated, Function.comp_def]

theorem constants_brace (lines : List String) :
    (lines ++ ["\x7d"]).filterMap constantIn? = lines.filterMap constantIn? := by
  have hbrace : constantIn? "\x7d" = none := by decide
  simp [hbrace]

theorem locals_sendRoutine (op : Operation) (contextType : String) :
    (sendRoutine op contextType).locals = "context" :: op.argumentNames := by
  unfold sendRoutine Routine.locals
  rw [constants_brace, constants_sendBody, List.append_nil, List.map_cons, names_declared]
  rfl

theorem locals_deserializeRoutine (op : Operation) :
    (deserializeRoutine op).locals = ["result", "expectedStatuses"] := by
  unfold deserializeRoutine Routine.locals
  rw [constants_brace, constants_deserializeBody]
  rfl

theorem locals_callRoutine (op : Operation) (contextType : String) : (callRoutine op contextType).locals =
    "context" :: op.argumentNames ++ if op.kind = .plain then ["result"] else [] := by
  unfold callRoutine Routine.locals
  rw [constants_brace, constants_callBody, List.map_cons, names_declared]
  rfl

theorem locals_constructorRoutine (c : Plan.ClientClass) : (constructorRoutine c).locals =
    "endpointParam" :: c.clientParameters.map Parameter.name ++ ["options"] := by
  have hbody : (constructorRoutine c).body.filterMap constantIn? = [] := by
    unfold constructorRoutine
    simp (disch := decide) [constantIn?_append, constantIn?_of_beginsOtherwise, String.append_assoc]
  rw [Routine.locals, hbody, List.append_nil]
  simp [constructorRoutine, names_annotated]

theorem locals_methodRoutine (op : Operation) : (methodRoutine op).locals = op.argumentNames := by
  have hbody : (methodRoutine op).body.filterMap constantIn? = [] := by
    unfold methodRoutine
    simp (disch := decide) [constantIn?_append, constantIn?_of_beginsOtherwise, String.append_assoc]
  rw [Routine.locals, hbody, List.append_nil]
  exact names_declared op.parameters

theorem locals_memberRoutine (op : Operation) : (memberRoutine op).locals = op.argumentNames :=
  (List.append_nil _).trans (names_annotated op.parameters)

theorem locals_sections (part : Plan.Part) : (sections part).flatMap Section.locals = part.locals := by
  cases part with
  | packageJson m => rfl
  | clientDefinitions d =>
    have hgroup : ∀ g, (groupSections g).flatMap Section.locals = g.operations.map Operation.argumentNames := by
      intro g
      simp [groupSections, memberSections, Section.locals, locals_memberRoutine, List.flatMap_assoc,
        List.map_eq_flatMap]
    simp [sections, Section.locals, Plan.Part.locals, List.flatMap_assoc, hgroup]
  | clientClass c =>
    simp [sections, methodSections, Section.locals, Plan.Part.locals, locals_constructorRoutine, locals_methodRoutine,
      List.flatMap_assoc, List.map_eq_flatMap]
  | operationFile f =>
    simp [sections, Section.locals, Plan.Part.locals, locals_sendRoutine, locals_deserializeRoutine,
      locals_callRoutine]

end Baseline

namespace Declarative

variable {i : Imports} {op : Operation}

theorem localNames_sendFunction (op : Operation) (contextType : String) (i : Imports) :
    (sendFunction op contextType i).content.locals = ["context" :: op.argumentNames] := by
  change [localNames _ _] = _
  rw [localNames, constants_sendBody, List.append_nil]
  exact congrArg (fun names => [names]) (map_name_scopedParams i op.sendName op contextType)

theorem localNames_deserializeFunction (op : Operation) (i : Imports) :
    (deserializeFunction op i).content.locals = [["result", "expectedStatuses"]] := by
  change [localNames _ _] = _
  rw [localNames, constants_deserializeBody]
  rfl

theorem localNames_callFunction (op : Operation) (contextType : String) (i : Imports) :
    (callFunction op contextType i).content.locals =
      ["context" :: op.argumentNames ++ if op.kind = .plain then ["result"] else []] := by
  change [localNames _ _] = _
  rw [localNames, constants_callBody]
  exact congrArg (fun names => [names ++ _]) (map_name_scopedParams i op.name op contextType)

theorem localNames_constructorMethod (c : Plan.ClientClass) :
    localNames (constructorMethod c).params (constructorMethod c).body =
      "endpointParam" :: c.clientParameters.map Parameter.name ++ ["options"] := by
  have hbody : (constructorMethod c).body.filterMap Code.constant? = [] := by
    unfold constructorMethod
    simp (disch := decide) [constantIn?_of_beginsOtherwise, List.append_assoc]
  rw [localNames, hbody, List.append_nil]
  exact map_name_constructorParams c

theorem localNames_operationMethod (i : Imports) (op : Operation) :
    localNames (operationMethod i op).params (operationMethod i op).body = op.argumentNames := by
  have hbody : (operationMethod i op).body.filterMap Code.constant? = [] := by
    unfold operationMethod
    simp (disch := decide) [constantIn?_of_beginsOtherwise, List.append_assoc]
  rw [localNames, hbody, List.append_nil]
  exact map_name_params true op.parameters

theorem locals_groupMember (i : Imports) (op : Operation) :
    (groupMember i op).locals = [op.argumentNames] := by
  change [localNames _ []] = _
  rw [localNames, List.filterMap_nil, List.append_nil]
  exact congrArg (fun names => [names]) (map_name_params false op.parameters)

theorem flatMap_locals_groupMember (i : Imports) (ops : List Operation) :
    (ops.flatMap fun op => (groupMember i op).locals) = ops.map Operation.argumentNames := by
  rw [List.map_eq_flatMap]
  exact List.flatMap_congr fun op _ => locals_groupMember i op

theorem flatMap_locals_routeMember (i : Imports) (routes : List Plan.Route) :
    (routes.flatMap fun r => (routeMember i r).locals) = [] :=
  List.flatMap_eq_nil_iff.2 fun _ _ => rfl

theorem flatMap_locals_operationMethod (i : Imports) (ops : List Operation) :
    (ops.flatMap fun op => [localNames (operationMethod i op).params (operationMethod i op).body]) =
      ops.map Operation.argumentNames := by
  rw [List.map_eq_flatMap]
  exact List.flatMap_congr fun op _ => congrArg (fun names => [names]) (localNames_operationMethod i op)

/-- The tree of a part declares the local names of the part. -/
theorem locals_tree {part : Plan.Part} {tree : Source.File} (h : tree? part = some tree) :
    tree.locals = part.locals := by
  cases part with
  | packageJson m => cases h
  | clientDefinitions d =>
    obtain rfl := Option.some.inj h
    simp [Source.File.locals, clientDefinitions, interfaceOf, Source.Content.locals, List.flatMap_map,
      flatMap_locals_routeMember, flatMap_locals_groupMember, Plan.Part.locals]
  | clientClass c =>
    obtain rfl := Option.some.inj h
    simp [Source.File.locals, clientClass, classFields, Source.Content.locals, Source.ClassMember.locals,
      List.flatMap_map, flatMap_locals_operationMethod, localNames_constructorMethod, Plan.Part.locals]
  | operationFile f =>
    obtain rfl := Option.some.inj h
    simp [Source.File.locals, operationFile, localNames_sendFunction, localNames_deserializeFunction,
      localNames_callFunction, Plan.Part.locals]

end Declarative

/-! ## Names that come twice -/

variable {m : Service.Model} {ops : List Operation}

namespace Plan

theorem names_of_shapeParameters {operation : String} {ps : List Service.Parameter} {shaped : List (Bool × Parameter)}
    (h : shapeParameters operation [] ps = .ok shaped) :
    ps.map Service.Parameter.name = shaped.map fun s => s.2.name := by
  rw [← List.forall₂_eq_eq_eq, List.forall₂_map_left_iff, List.forall₂_map_right_iff]
  exact (shapeParameters_eq_ok_iff.1 h).1.imp fun p s hps => (name_of_shapeParameter hps.2).symm

theorem nodup_names_of_shapeParameters {operation : String} {ps : List Service.Parameter}
    {shaped : List (Bool × Parameter)} (h : shapeParameters operation [] ps = .ok shaped) :
    (shaped.map fun s => s.2.name).Nodup :=
  names_of_shapeParameters h ▸ (shapeParameters_eq_ok_iff.1 h).2.1

theorem notMem_reservedNames_of_shapeParameters {operation : String} {ps : List Service.Parameter}
    {shaped : List (Bool × Parameter)} (h : shapeParameters operation [] ps = .ok shaped) :
    ∀ name ∈ shaped.map fun s => s.2.name, name ∉ reservedNames := by
  rw [← names_of_shapeParameters h, List.forall_mem_map]
  exact fun p hp => ((shapeParameters_eq_ok_iff.1 h).2.2 p hp).2

/-- Apart from what a body declares, the local names of a function are apart. -/
theorem nodup_argumentNames (h : operations m = .ok ops) {op : Operation} (hop : op ∈ ops) :
    ("context" :: op.argumentNames).Nodup := by
  obtain ⟨e, _, shaped, hshaped, rfl⟩ := exists_of_mem_operations h hop
  generalize hperCall : ((shaped.filter fun s => !s.1).map Prod.snd).map Parameter.name = perCall
  have hnames : (plannedOperation (operationName e.2.2) e.1 e.2.1.group e.2.2 shaped).argumentNames =
      perCall ++ ["options"] := by
    simp [Operation.argumentNames, plannedOperation, ← hperCall, Parameter.options]
  have hsublist : perCall.Sublist (shaped.map fun s => s.2.name) := by
    rw [← hperCall, List.map_map]
    exact List.filter_sublist.map _
  have hfresh : ∀ name ∈ reservedNames, name ∉ perCall := fun name hname hmem =>
    notMem_reservedNames_of_shapeParameters hshaped name (hsublist.subset hmem) hname
  have hcontext := hfresh "context" (by decide)
  have hoptions := hfresh "options" (by decide)
  have hperCall := (nodup_names_of_shapeParameters hshaped).sublist hsublist
  rw [hnames, ← List.cons_append, ← List.concat_eq_append, List.nodup_concat, List.nodup_cons]
  exact ⟨by simp [hoptions], hcontext, hperCall⟩

theorem options_notMem_clientParameters (h : operations m = .ok ops) {op : Operation} (hop : op ∈ ops) :
    "options" ∉ op.clientParameters.map Parameter.name := by
  obtain ⟨e, _, shaped, hshaped, rfl⟩ := exists_of_mem_operations h hop
  have hsublist : (((shaped.filter Prod.fst).map Prod.snd).map Parameter.name).Sublist
      (shaped.map fun s => s.2.name) := by
    rw [List.map_map]
    exact List.filter_sublist.map _
  exact fun hmem => notMem_reservedNames_of_shapeParameters hshaped _ (hsublist.subset hmem) (by decide)

theorem mem_names_clientParameters_iff {name : String} :
    name ∈ (clientClass m ops).clientParameters.map Parameter.name ↔
      ∃ op ∈ ops, name ∈ op.clientParameters.map Parameter.name := by
  change name ∈ (distinctParameters (ops.flatMap Operation.clientParameters)).map Parameter.name ↔ _
  rw [(firstByName_distinctParameters _).names.mem_iff, List.map_flatMap, List.mem_flatMap]

theorem nodup_constructorNames_iff (h : operations m = .ok ops) :
    ("endpointParam" :: (clientClass m ops).clientParameters.map Parameter.name ++ ["options"]).Nodup ↔
      ∀ op ∈ ops, "endpointParam" ∉ op.clientParameters.map Parameter.name := by
  have hnodup : ((clientClass m ops).clientParameters.map Parameter.name).Nodup :=
    (firstByName_distinctParameters _).names.nodup
  have hoptions : "options" ∉ (clientClass m ops).clientParameters.map Parameter.name := by
    rw [mem_names_clientParameters_iff]
    rintro ⟨op, hop, hmem⟩
    exact options_notMem_clientParameters h hop hmem
  rw [← List.concat_eq_append, List.nodup_concat, List.nodup_cons, mem_names_clientParameters_iff]
  simp [hnodup, hoptions]

theorem nodup_locals_clientDefinitions (h : operations m = .ok ops) :
    ∀ names ∈ (Part.clientDefinitions (clientDefinitions m ops)).locals, names.Nodup := by
  intro names hnames
  obtain ⟨g, hg, hnames⟩ := List.mem_flatMap.1 hnames
  obtain ⟨op, hop, rfl⟩ := List.mem_map.1 hnames
  exact (nodup_argumentNames h ((ofPlan_of_mem_groups hg).operations op hop)).of_cons

theorem nodup_locals_clientClass_iff (h : operations m = .ok ops) :
    (∀ names ∈ (Part.clientClass (clientClass m ops)).locals, names.Nodup) ↔
      ∀ op ∈ ops, "endpointParam" ∉ op.clientParameters.map Parameter.name := by
  have hmethods : ∀ names ∈ (clientClass m ops).operations.map Operation.argumentNames, names.Nodup :=
    List.forall_mem_map.2 fun op hop => (nodup_argumentNames h hop).of_cons
  rw [Part.locals, List.forall_mem_cons, nodup_constructorNames_iff h]
  exact and_iff_left hmethods

theorem nodup_locals_operationFile_iff (h : operations m = .ok ops) {op : Operation} (hop : op ∈ ops) :
    (∀ names ∈ (Part.operationFile (operationFile m op)).locals, names.Nodup) ↔
      (op.kind = .plain → "result" ∉ op.argumentNames) := by
  have hsend := nodup_argumentNames h hop
  have hdeserialize : ["result", "expectedStatuses"].Nodup := by decide
  change (∀ names ∈ ["context" :: op.argumentNames, ["result", "expectedStatuses"],
    "context" :: op.argumentNames ++ if op.kind = .plain then ["result"] else []], names.Nodup) ↔ _
  simp only [List.forall_mem_cons, hsend, hdeserialize, true_and]
  by_cases hplain : op.kind = .plain
  · rw [if_pos hplain, ← List.concat_eq_append, List.nodup_concat]
    simp [hsend, hplain]
  · rw [if_neg hplain, List.append_nil]
    simp [hsend, hplain]

end Plan

/-! ## What the emitted files declare -/

/-- Both ways of emitting a file declare the same local names: those of the part. They are apart in all files exactly if
no operation that awaits a plain result has a parameter `result` at each call, and none binds `endpointParam` at the
client. -/
theorem locals_spec (h : Plan.operations m = .ok ops) :
    (∀ part ∈ Plan.sourceParts m ops,
      (∀ file, Declarative.emit part = .ok file →
        ∃ tree, Declarative.tree? part = some tree ∧ Source.render tree = .ok file.content ∧
          tree.locals = part.locals) ∧
      Baseline.emit part = .ok ⟨part.path, Text.unlines ((Baseline.sections part).flatMap Baseline.Section.lines)⟩ ∧
      (Baseline.sections part).flatMap Baseline.Section.locals = part.locals) ∧
    ((∀ part ∈ Plan.sourceParts m ops, ∀ names ∈ part.locals, names.Nodup) ↔
      (∀ op ∈ ops, "endpointParam" ∉ op.clientParameters.map Parameter.name) ∧
        ∀ op ∈ ops, op.kind = .plain → "result" ∉ op.argumentNames) := by
  constructor
  · intro part hpart
    refine ⟨fun file hfile => ?_, Baseline.emit_eq_sections h hpart, Baseline.locals_sections part⟩
    obtain ⟨tree, htree, hrender⟩ := exists_tree_of_emit hpart hfile
    exact ⟨tree, htree, hrender, Declarative.locals_tree htree⟩
  · have hoperations : (∀ part ∈ Plan.operationParts m ops, ∀ names ∈ part.locals, names.Nodup) ↔
        ∀ op ∈ ops, op.kind = .plain → "result" ∉ op.argumentNames := by
      rw [Plan.operationParts, List.forall_mem_map]
      exact forall₂_congr fun op hop => Plan.nodup_locals_operationFile_iff h hop
    rw [Plan.sourceParts, List.forall_mem_cons, List.forall_mem_cons, hoperations,
      Plan.nodup_locals_clientClass_iff h]
    exact and_iff_right (Plan.nodup_locals_clientDefinitions h)

theorem locals_spec_things :
    (∀ part ∈ Plan.sourceParts things plannedThings, ∀ names ∈ part.locals, names.Nodup) ∧
      ∀ op ∈ plannedThings, ∃ file tree,
        Declarative.emit (.operationFile (Plan.operationFile things op)) = .ok file ∧
          Source.render tree = .ok file.content ∧ tree.locals =
            [["context", "id", "options"], ["result", "expectedStatuses"], ["context", "id", "options", "result"]] := by
  obtain ⟨hdeclared, hnodup⟩ := locals_spec operations_things
  refine ⟨hnodup.2 ⟨by decide +kernel, by decide +kernel⟩, fun op hop => ?_⟩
  have hpart : .operationFile (Plan.operationFile things op) ∈ Plan.sourceParts things plannedThings :=
    Plan.mem_sourceParts_iff.2 (.inr (.inr ⟨op, hop, rfl⟩))
  obtain ⟨file, hfile⟩ := Declarative.exists_emit_of_all (by decide +kernel) _ hpart
  obtain ⟨tree, _, hrender, hlocals⟩ := (hdeclared _ hpart).1 file hfile
  have hnames : ∀ op ∈ plannedThings, (Plan.Part.operationFile (Plan.operationFile things op)).locals =
      [["context", "id", "options"], ["result", "expectedStatuses"], ["context", "id", "options", "result"]] := by
    decide +kernel
  exact ⟨file, tree, hfile, hrender, hlocals.trans (hnames op hop)⟩

/-- A file of a plan is emitted in which a function, method or constructor declares the names. -/
def Declared (m : Service.Model) (ops : List Operation) (names : List String) : Prop :=
  ∃ part ∈ Plan.sourceParts m ops, ∃ file tree, Declarative.emit part = .ok file ∧
    Source.render tree = .ok file.content ∧ names ∈ tree.locals ∧
    names ∈ (Baseline.sections part).flatMap Baseline.Section.locals

theorem declared_of_mem_locals
    (h : ((Plan.sourceParts m ops).all fun part => (Declarative.emit part).toOption.isSome) = true)
    {names : List String} (hnames : ∃ part ∈ Plan.sourceParts m ops, names ∈ part.locals) : Declared m ops names := by
  obtain ⟨part, hpart, hnames⟩ := hnames
  obtain ⟨file, hfile⟩ := Declarative.exists_emit_of_all h part hpart
  obtain ⟨tree, htree, hrender⟩ := exists_tree_of_emit hpart hfile
  exact ⟨part, hpart, file, tree, hfile, hrender, Declarative.locals_tree htree ▸ hnames,
    Baseline.locals_sections part ▸ hnames⟩

/-- An operation with one parameter in the query. -/
def finds (parameter : String) (onClient : Bool) : Service.Model where
  options := things.options
  sourcePath := "src"
  paths :=
    ⟨[("/things", ⟨"things", none, [],
        [⟨"find", .get, none, ⟨"Thing", []⟩, [⟨parameter, "string", "query", onClient, false, none, false⟩], none,
          none⟩]⟩)], by simp⟩

def plannedFinds (parameter : String) (onClient : Bool) : List Operation :=
  match Plan.operations (finds parameter onClient) with
  | .ok ops => ops
  | .error _ => []

/-- A parameter called like the result is declared twice in a file that is emitted, and so is one bound at the client
that is called like the endpoint. -/
theorem locals_declared_twice :
    (Plan.operations (finds "result" false) = .ok (plannedFinds "result" false) ∧
      Declared (finds "result" false) (plannedFinds "result" false) ["context", "result", "options", "result"] ∧
      ¬ ["context", "result", "options", "result"].Nodup) ∧
    Plan.operations (finds "endpointParam" true) = .ok (plannedFinds "endpointParam" true) ∧
      Declared (finds "endpointParam" true) (plannedFinds "endpointParam" true)
        ["endpointParam", "endpointParam", "options"] ∧
      ¬ ["endpointParam", "endpointParam", "options"].Nodup :=
  ⟨⟨rfl, declared_of_mem_locals (by decide +kernel) (by decide +kernel), by decide⟩,
    rfl, declared_of_mem_locals (by decide +kernel) (by decide +kernel), by decide⟩

end ClientGen
