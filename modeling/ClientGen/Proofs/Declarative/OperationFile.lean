import ClientGen.Baseline.OperationFile
import ClientGen.Declarative.OperationFile
import ClientGen.Proofs.Declarative.TypeCode
import ClientGen.Proofs.Emission.Outline

/-!
# The file of an operation

The three functions of an operation's tree render line by line to the lines of its template. Every reference in a body
is to a parameter of the function or to one of the three functions, and is spelled as the template spells it.
-/

namespace ClientGen.Declarative

open Source (Code Scope KeyedIn RendersLines renderCode renderCode_append renderLine_eq_ok_iff withParams)

variable {i : Imports} {scope : Scope} {s : String} {op : Plan.Operation}

/-! ## What a body refers to -/

theorem renderCode_paramRef {ps : List Source.Param} {name : String} (h : KeyedIn s ps)
    (hm : name ∈ ps.map Source.Param.name) : renderCode (withParams ps scope) (paramRef s name) = .ok name :=
  Source.renderCode_ref (Source.withParams_parameter h hm)

/-- In a scope the context, the arguments and the bag of options of an operation are called by their own names. -/
structure Spells (scope : Scope) (s : String) (op : Plan.Operation) : Prop where
  context : renderCode scope (paramRef s "context") = .ok "context"
  argument : ∀ name ∈ op.argumentNames, renderCode scope (paramRef s name) = .ok name
  options : renderCode scope (optionsRef op s) = .ok "options"

/-- The parameters of the functions of an operation, the context first. -/
def scopedParams (i : Imports) (s contextType : String) (op : Plan.Operation) : List Source.Param :=
  contextParam s contextType :: params i s true op.parameters

/-- The names inside a function of an operation. -/
abbrev innerScope (i : Imports) (s contextType : String) (op : Plan.Operation) (scope : Scope) : Scope :=
  withParams (scopedParams i s contextType op) scope

variable (i s op) (contextType : String)

theorem keyedIn_scopedParams : KeyedIn s (scopedParams i s contextType op) := by
  rw [KeyedIn, scopedParams, List.forall_mem_cons]
  exact ⟨rfl, keyedIn_params true op.parameters⟩

theorem map_name_scopedParams :
    (scopedParams i s contextType op).map Source.Param.name = "context" :: op.argumentNames := by
  rw [scopedParams, List.map_cons, map_name_params]
  rfl

theorem spells_innerScope (scope : Scope) (ho : op.Regular) : Spells (innerScope i s contextType op scope) s op := by
  have hname : ∀ name ∈ "context" :: op.argumentNames,
      renderCode (innerScope i s contextType op scope) (paramRef s name) = .ok name := by
    intro name hm
    exact renderCode_paramRef (keyedIn_scopedParams i s op contextType) (map_name_scopedParams i s op contextType ▸ hm)
  refine ⟨hname _ List.mem_cons_self, fun name hm => hname _ (List.mem_cons_of_mem _ hm), ?_⟩
  rw [optionsRef, ho.optionsParameter?_eq]
  exact hname _ (List.mem_cons_of_mem _ ho.options_mem)

variable {i s op contextType}

theorem Resolves.innerScope (h : Resolves i scope) (hi : i.ParameterFree) :
    Resolves i (innerScope i s contextType op scope) :=
  h.withParams hi (keyedIn_scopedParams i s op contextType)

theorem renderParam_scopedParams (hr : Resolves i scope) (ho : op.Regular) :
    ∃ ps, (scopedParams i s contextType op).mapM (Source.renderParam scope) = .ok ps ∧
      Text.joined ", " ps = Baseline.declaredParameters op contextType := by
  have hcontext : Source.renderParam scope (contextParam s contextType) = .ok ("context: " ++ contextType) := by
    simp [Source.renderParam, contextParam, plainParam]
  refine ⟨("context: " ++ contextType) :: op.parameters.map Plan.Parameter.declaration, ?_, ?_⟩
  · rw [scopedParams, List.mapM_cons, hcontext, renderParam_declaration hr]
    rfl
  · have hne : op.parameters.map Plan.Parameter.declaration ≠ [] := by simpa using ho.parameters_ne_nil
    rw [Text.joined_cons_of_ne_nil _ _ hne]
    rfl

/-- The text of a function with the parameters of an operation. -/
theorem renderFunction_scopedParams {opening name result : String} {isAsync : Bool} {returnType : Code}
    {body : List Code} {texts : List String} (hi : Resolves i (innerScope i s contextType op scope))
    (ho : op.Regular) (hr : renderCode (innerScope i s contextType op scope) returnType = .ok result)
    (hb : RendersLines (innerScope i s contextType op scope) 1 body texts) :
    Source.renderFunction scope opening name ⟨isAsync, scopedParams i s contextType op, returnType, body⟩ =
      .ok (Text.unlines ([opening ++ (if isAsync then "async " else "") ++ "function " ++ name ++ "(" ++
        Baseline.declaredParameters op contextType ++ "): " ++ result ++ " \x7b"] ++ texts ++ ["\x7d"])) := by
  obtain ⟨ps, hps, hjoined⟩ := renderParam_scopedParams (s := s) hi ho
  rw [Source.renderFunction_eq (f := ⟨isAsync, scopedParams i s contextType op, returnType, body⟩) hps hr hb, hjoined]

/-! ## Sending the request -/

section SendBody

variable (h : Spells scope s op)
include h

theorem renderCode_name {p : Plan.Parameter} (hp : p ∈ op.parameters) :
    renderCode scope (paramRef s p.name) = .ok p.name :=
  h.argument p.name (List.mem_map_of_mem hp)

theorem rendersLines_membersLine (label : String) {members : List (String × Plan.Parameter)}
    (hm : ∀ e ∈ members, e.2 ∈ op.parameters) :
    RendersLines scope 1 (membersLine s label members) (Baseline.membersLine label members) := by
  unfold membersLine Baseline.membersLine
  by_cases hempty : members.isEmpty
  · rw [if_pos hempty, if_pos hempty]
    exact .nil
  · rw [if_neg hempty, if_neg hempty]
    have hrefs : renderCode scope (namedRefs s members) = .ok (Baseline.namedArguments members) := by
      apply Source.renderCode_joined
      apply Source.renders_map
      rintro ⟨name, p⟩ he
      simp [renderCode_append, renderCode_name h (hm _ he)]
    refine .cons ?_ .nil
    simp [renderLine_eq_ok_iff, renderCode_append, hrefs]

theorem renderCode_pathCall :
    renderCode scope (pathCall op s) = .ok ("context.path(" ++ Baseline.pathArguments op) := by
  have hrefs : renderCode scope ((op.parameters.filter fun p => p.slot == .path).flatMap fun p =>
      Code.text ", " ++ paramRef s p.name) =
        .ok (Text.concat ((op.parameters.filter fun p => p.slot == .path).map fun p => ", " ++ p.name)) := by
    apply Source.renderCode_flatMap
    intro p hp
    simp [renderCode_append, renderCode_name h (List.mem_of_mem_filter hp)]
  simp [pathCall, Baseline.pathArguments, renderCode_append, h.context, hrefs, ← String.append_assoc]

omit h in
/-- The line for the body as a tree has it, with or without a name. -/
def bodyTexts (op : Plan.Operation) : List String :=
  match op.bodyParameter? with
  | some p => ["    body: " ++ p.name ++ ","]
  | none => []

omit h in
theorem bodyTexts_eq (hbody : ∀ p ∈ op.parametersAt .body, p.name ≠ "") : bodyTexts op = Baseline.bodyLine op := by
  unfold bodyTexts Baseline.bodyLine
  cases hp : op.bodyParameter? with
  | none => rfl
  | some p => exact (if_neg (hbody p (List.mem_of_mem_head? hp))).symm

theorem rendersLines_bodyLine : RendersLines scope 1 (bodyLine op s) (bodyTexts op) := by
  unfold bodyLine bodyTexts
  cases hp : op.bodyParameter? with
  | none => exact .nil
  | some p =>
    have hmem : p ∈ op.parametersAt .body := List.mem_of_mem_head? hp
    refine .cons ?_ .nil
    simp [renderLine_eq_ok_iff, renderCode_append, renderCode_name h (List.mem_of_mem_filter hmem)]

/-- The body renders to that of the template, up to the line for the body of the request. -/
theorem rendersLines_sendBody :
    RendersLines scope 1 (sendBody op s) (Outline.sendBodyWith (bodyTexts op) op) := by
  have hpolicy : RendersLines scope 1
      (if op.removesApiVersionPolicy then [paramRef s "context" ++
        Code.text ".pipeline.removePolicy(\x7b name: \"ClientApiVersionPolicy\" \x7d);"] else [])
      (if op.removesApiVersionPolicy then
        ["  context.pipeline.removePolicy(\x7b name: \"ClientApiVersionPolicy\" \x7d);"] else []) := by
    split
    · refine .cons ?_ .nil
      simp [renderLine_eq_ok_iff, renderCode_append, h.context]
    · exact .nil
  have hcall : RendersLines scope 1
      [Code.text "return " ++ pathCall op s ++ Code.text (")." ++ op.method.verb ++ "(\x7b"),
        Code.text "  ...operationOptionsToRequestParameters(" ++ optionsRef op s ++ Code.text "),"]
      ["  return context.path(" ++ Baseline.pathArguments op ++ ")." ++ op.method.verb ++ "(\x7b",
        "    ...operationOptionsToRequestParameters(options),"] := by
    refine .cons ?_ (.cons ?_ .nil)
    · simp [renderLine_eq_ok_iff, renderCode_append, renderCode_pathCall h]
    · simp [renderLine_eq_ok_iff, renderCode_append, h.options]
  have hquery : RendersLines scope 1 (membersLine s "queryParameters" (queryMembers op))
      (Baseline.membersLine "queryParameters" (Baseline.queryMembers op)) := by
    refine rendersLines_membersLine h _ fun e he => ?_
    obtain ⟨p, hp, rfl⟩ := List.mem_map.1 he
    exact List.mem_of_mem_filter hp
  have hheaders : RendersLines scope 1 (membersLine s "headers" (headerMembers op))
      (Baseline.membersLine "headers" (Baseline.headerMembers op)) := by
    refine rendersLines_membersLine h _ fun e he => ?_
    obtain ⟨p, hp, hpe⟩ := List.mem_filterMap.1 he
    obtain ⟨name, _, rfl⟩ := Option.map_eq_some_iff.1 hpe
    exact hp
  have hend : RendersLines scope 1 [Code.text "\x7d);"] ["  \x7d);"] := by
    refine .cons ?_ .nil
    simp [renderLine_eq_ok_iff]
  exact List.rel_append (List.rel_append (List.rel_append (List.rel_append
    (List.rel_append hpolicy hcall) hquery) hheaders) (rendersLines_bodyLine h)) hend

end SendBody

/-! ## Reading the response -/

theorem rendersLines_deserializeBody (h : renderCode scope (paramRef s "result") = .ok "result") :
    RendersLines scope 1 (deserializeBody op s) (Baseline.deserializeBody op) := by
  have haccessor : resultAccessor op = Baseline.resultAccessor op := rfl
  simp [deserializeBody, Baseline.deserializeBody, haccessor, RendersLines, renderLine_eq_ok_iff, renderCode_append, h]

/-! ## The function for callers -/

/-- In a scope the functions of an operation are called by their own names. -/
structure Declares (scope : Scope) (op : Plan.Operation) : Prop where
  send : scope op.sendKey = some op.sendName
  deserialize : scope op.deserializeKey = some op.deserializeName

theorem Declares.withParams {ps : List Source.Param} (h : Declares scope op) (hk : KeyedIn s ps) :
    Declares (withParams ps scope) op := by
  constructor
  · rw [Source.withParams_of_kind_ne hk (by simp [Plan.Operation.sendKey, Reference.sendFunction]), h.send]
  · rw [Source.withParams_of_kind_ne hk (by simp [Plan.Operation.deserializeKey, Reference.deserializeFunction]),
      h.deserialize]

theorem pagingSettings_eq {p : Plan.Paging} (h : op.paging = some p) :
    pagingSettings op = Baseline.pagingSettings p := by
  simp only [pagingSettings, h, Baseline.pagingSettings]
  cases p.nextLinkField <;> simp [String.append_assoc]

theorem exists_paging_of_kind (h : op.kind = .paging) : ∃ p, op.paging = some p := by
  cases hp : op.paging with
  | some p => exact ⟨p, rfl⟩
  | none =>
    unfold Plan.Operation.kind at h
    split at h
    · cases h
    · simp [hp] at h

section CallBody

variable (h : Spells scope s op) (hd : Declares scope op)
include h hd

theorem renderCode_sendCall :
    renderCode scope (sendCall op s) = .ok (op.sendName ++ "(" ++ Baseline.arguments op ++ ")") := by
  have harguments : renderCode scope (Code.joined ", " (("context" :: op.argumentNames).map (paramRef s))) =
      .ok (Baseline.arguments op) := by
    apply Source.renderCode_joined
    rw [← List.map_id ("context" :: op.argumentNames), List.map_map]
    apply Source.renders_map
    intro name hm
    rcases List.mem_cons.1 hm with rfl | hm
    · exact h.context
    · exact h.argument name hm
  simp only [sendCall, renderCode_append, Source.renderCode_ref hd.send, harguments, Source.renderCode_text, ok_bind]

theorem rendersLines_callBody (hi : Resolves i scope) :
    RendersLines scope 1 (callBody op s i) (Baseline.callBody op) := by
  have hsend := renderCode_sendCall h hd
  have hdeserialize := Source.renderCode_ref hd.deserialize
  unfold callBody Baseline.callBody
  cases hkind : op.kind with
  | plain => simp [RendersLines, renderLine_eq_ok_iff, renderCode_append, hsend, hdeserialize]
  | longRunning =>
    simp [RendersLines, renderLine_eq_ok_iff, renderCode_append, hsend, hdeserialize, h.context, h.options,
      renderCode_typeCode hi]
  | paging =>
    obtain ⟨p, hp⟩ := exists_paging_of_kind hkind
    simp [RendersLines, renderLine_eq_ok_iff, renderCode_append, hsend, hdeserialize, h.context, pagingSettings_eq hp,
      hp]

end CallBody

/-! ## The file -/

section File

variable (contextType : String) (hi : Resolves i scope) (hp : i.ParameterFree) (ho : op.Regular)
include hi hp ho

theorem renderDeclaration_sendFunction : Source.renderDeclaration scope (sendFunction op contextType i) =
    .ok (Text.unlines (Outline.sendLinesWith (bodyTexts op) op contextType)) := by
  have hspells := spells_innerScope i op.sendName op contextType scope ho
  have hi' : Resolves i (innerScope i op.sendName contextType op scope) := hi.innerScope hp
  refine (renderFunction_scopedParams hi' ho (Source.renderCode_text _) (rendersLines_sendBody hspells)).trans ?_
  simp [Outline.sendLinesWith, Source.docComment, Source.exportWord, sendFunction, String.append_assoc]

theorem renderDeclaration_callFunction (hd : Declares scope op) :
    Source.renderDeclaration scope (callFunction op contextType i) =
      .ok (Source.docComment op.description "" ++ Text.unlines (Baseline.callLines op contextType)) := by
  have hspells := spells_innerScope i op.name op contextType scope ho
  have hi' : Resolves i (innerScope i op.name contextType op scope) := hi.innerScope hp
  have hd' := hd.withParams (keyedIn_scopedParams i op.name op contextType)
  have hbody := rendersLines_callBody hspells hd' hi'
  refine (renderFunction_scopedParams hi' ho (renderCode_typeCode hi' op.returnType) hbody).trans ?_
  unfold Baseline.callLines Baseline.callOpening
  cases op.kind <;> simp [callFunction, Source.exportWord, String.append_assoc]

omit ho in
theorem renderDeclaration_deserializeFunction :
    Source.renderDeclaration scope (deserializeFunction op i) = .ok (Text.unlines (Baseline.deserializeLines op)) := by
  have hkeyed := keyedIn_plainParam (s := op.deserializeName) "result" (Code.text "PathUncheckedResponse")
  have hi' := hi.withParams hp hkeyed
  have hresult : renderCode (withParams _ scope) (paramRef op.deserializeName "result") = .ok "result" :=
    renderCode_paramRef hkeyed List.mem_cons_self
  have hparams : ∀ scope, [plainParam op.deserializeName "result" (Code.text "PathUncheckedResponse")].mapM
      (Source.renderParam scope) = .ok ["result: PathUncheckedResponse"] := by
    intro scope
    simp [Source.renderParam, plainParam]
  refine (Source.renderFunction_eq (hparams _) (renderCode_typeCode hi' op.deserializeType)
    (rendersLines_deserializeBody hresult)).trans ?_
  simp [Baseline.deserializeLines, deserializeFunction, Source.docComment, Source.exportWord, Text.joined,
    String.append_assoc]

end File

theorem declares_operationFile {f : Plan.OperationFile} (h : Source.DistinctSymbols (operationFile f).symbols) :
    Declares (operationFile f).scope f.operation := by
  constructor
  · exact Source.File.scope_eq_some h (by simp [Source.File.symbols, operationFile, sendFunction])
  · exact Source.File.scope_eq_some h (by simp [Source.File.symbols, operationFile, deserializeFunction])

/-- The file of an operation renders to its outline with starred comments, up to the line for the body of the
request. -/
theorem render_operationFile {f : Plan.OperationFile} (h : Source.DistinctSymbols (operationFile f).symbols)
    (hne : f.imports.entries ≠ []) (hp : f.imports.ParameterFree) (ho : f.operation.Regular) :
    Source.render (operationFile f) =
      .ok ((Outline.ofOperationFileWith (bodyTexts f.operation) f).write Comment.starred) := by
  have hi : Resolves f.imports (operationFile f).scope := resolves_scope rfl h
  have hsend := renderDeclaration_sendFunction f.contextType hi hp ho
  have hdeserialize : Source.renderDeclaration (operationFile f).scope (deserializeFunction f.operation f.imports) =
      .ok (Text.unlines (Baseline.deserializeLines f.operation)) := renderDeclaration_deserializeFunction hi hp
  have hcall := renderDeclaration_callFunction f.contextType hi hp ho (declares_operationFile h)
  have htexts : (operationFile f).declarations.mapM (Source.renderDeclaration (operationFile f).scope) =
      .ok [Text.unlines (Outline.sendLinesWith (bodyTexts f.operation) f.operation f.contextType),
        Text.unlines (Baseline.deserializeLines f.operation),
        Source.docComment f.operation.description "" ++
          Text.unlines (Baseline.callLines f.operation f.contextType)] := by
    rw [mapM_eq_ok_iff]
    exact .cons hsend (.cons hdeserialize (.cons hcall .nil))
  refine (render_eq h hne htexts).trans ?_
  simp [Outline.ofOperationFileWith, String.append_assoc]

end ClientGen.Declarative
