import ClientGen.Proofs.Emission.Agreement
import ClientGen.Proofs.Emission.Failure
import ClientGen.Proofs.Source.Capture

/-!
# Names captured in planned files

A body in a planned file refers to the functions that it calls and, for a poller, to the types that it yields. The plan
does not compare their names with those of the parameters: a name is captured wherever the two are equal.
-/

namespace ClientGen

namespace Declarative

open Source (CapturedIn Code Param Passage RefersTo capturedIn_append capturedIn_flatMap)

variable {i : Imports} {s : String} {op : Plan.Operation} {name : String}

/-! ## References of the bodies -/

@[simp] theorem references_paramRef (s name : String) : (paramRef s name).references = [.parameter s name] := rfl

theorem references_tokensCode (i : Imports) (pending : String) (tokens : List String) :
    (tokensCode i pending tokens).references = tokens.filterMap (importedKey? i) := by
  have hplain : ∀ text, (plainCode text).references = [] := by
    intro text
    unfold plainCode
    split <;> rfl
  induction tokens generalizing pending with
  | nil => exact hplain pending
  | cons token tokens ih =>
    rw [tokensCode]
    cases hkey : importedKey? i token with
    | none => rw [ih, List.filterMap_cons_none hkey]
    | some key =>
      rw [Code.references_append, hplain, List.nil_append, List.filterMap_cons_some hkey, ← ih ""]
      rfl

/-- Of a type expression the names that have a key are referred to. -/
theorem references_typeCode (i : Imports) (type : String) :
    (typeCode i type).references = (typeTokens type).filterMap (importedKey? i) :=
  references_tokensCode i "" (typeTokens type)

theorem references_optionsRef (ho : op.Regular) : (optionsRef op s).references = [.parameter s "options"] := by
  rw [optionsRef, ho.optionsParameter?_eq]
  rfl

/-- The keys of the parameters of an operation in a scope. -/
def ParameterKey (s : String) (op : Plan.Operation) (key : Reference) : Prop :=
  ∃ name ∈ "context" :: op.argumentNames, key = .parameter s name

theorem parameterKey_context : ParameterKey s op (.parameter s "context") := ⟨_, List.mem_cons_self, rfl⟩

theorem parameterKey_argument (h : name ∈ op.argumentNames) : ParameterKey s op (.parameter s name) :=
  ⟨name, List.mem_cons_of_mem _ h, rfl⟩

theorem parameterKey_name {p : Plan.Parameter} (hp : p ∈ op.parameters) : ParameterKey s op (.parameter s p.name) :=
  parameterKey_argument (List.mem_map_of_mem hp)

theorem parameterKey_of_membersLine {label : String} {members : List (String × Plan.Parameter)}
    (hm : ∀ e ∈ members, e.2 ∈ op.parameters) :
    ∀ line ∈ membersLine s label members, ∀ key ∈ line.references, ParameterKey s op key := by
  intro line hline key hkey
  unfold membersLine at hline
  split at hline
  · cases hline
  · obtain rfl := List.mem_singleton.1 hline
    simp only [namedRefs, Code.references_append, Code.references_text, Code.references_joined, List.nil_append,
      List.append_nil, List.mem_flatMap, List.mem_map] at hkey
    obtain ⟨_, ⟨e, he, rfl⟩, hkey⟩ := hkey
    obtain rfl : key = .parameter s e.2.name := by simpa using hkey
    exact parameterKey_name (hm e he)

theorem parameterKey_of_pathCall {key : Reference} (h : key ∈ (pathCall op s).references) : ParameterKey s op key := by
  simp only [pathCall, Code.references_append, Code.references_text, references_paramRef, Code.references_flatMap,
    List.mem_append, List.mem_flatMap, List.mem_singleton, List.not_mem_nil, false_or, List.append_nil] at h
  rcases h with rfl | ⟨p, hp, rfl⟩
  · exact parameterKey_context
  · exact parameterKey_name (List.mem_of_mem_filter hp)

/-- Whatever the send function refers to is a parameter of it. -/
theorem refersTo_sendBody (ho : op.Regular) : RefersTo (sendBody op s) s ("context" :: op.argumentNames) [] := by
  have hpolicy : ∀ line ∈ (if op.removesApiVersionPolicy then
      [paramRef s "context" ++ Code.text ".pipeline.removePolicy(\x7b name: \"ClientApiVersionPolicy\" \x7d);"]
      else []), ∀ key ∈ line.references, ParameterKey s op key := by
    intro line hline key hkey
    split at hline
    · obtain rfl := List.mem_singleton.1 hline
      obtain rfl : key = .parameter s "context" := by simpa using hkey
      exact parameterKey_context
    · cases hline
  have hbody : ∀ line ∈ bodyLine op s, ∀ key ∈ line.references, ParameterKey s op key := by
    intro line hline key hkey
    unfold bodyLine at hline
    split at hline
    · next p hp =>
      obtain rfl := List.mem_singleton.1 hline
      obtain rfl : key = .parameter s p.name := by simpa using hkey
      exact parameterKey_name (List.mem_of_mem_filter (List.mem_of_mem_head? hp))
    · cases hline
  have hquery : ∀ e ∈ queryMembers op, e.2 ∈ op.parameters := by
    intro e he
    obtain ⟨p, hp, rfl⟩ := List.mem_map.1 he
    exact List.mem_of_mem_filter hp
  have hheader : ∀ e ∈ headerMembers op, e.2 ∈ op.parameters := by
    intro e he
    obtain ⟨p, hp, hmap⟩ := List.mem_filterMap.1 he
    obtain ⟨_, _, rfl⟩ := Option.map_eq_some_iff.1 hmap
    exact hp
  refine ⟨?_, by simp, by simp⟩
  simp only [sendBody, List.forall_mem_append, List.forall_mem_cons, List.not_mem_nil, false_or]
  refine ⟨⟨⟨⟨⟨hpolicy, ?_, ?_, by simp⟩, parameterKey_of_membersLine hquery⟩, parameterKey_of_membersLine hheader⟩,
    hbody⟩, by simp, by simp⟩
  · intro key hkey
    exact parameterKey_of_pathCall (by simpa using hkey)
  · intro key hkey
    obtain rfl : key = .parameter s "options" := by simpa [references_optionsRef ho] using hkey
    exact parameterKey_argument ho.options_mem

theorem refersTo_deserializeBody : RefersTo (deserializeBody op s) s ["result"] [] := by
  refine ⟨?_, by simp, by simp⟩
  simp [deserializeBody]

theorem mem_references_sendCall {key : Reference} :
    key ∈ (sendCall op s).references ↔ key = op.sendKey ∨ ParameterKey s op key := by
  simp [sendCall, ParameterKey, List.flatMap_map]

/-- The keys that the function for callers refers to besides those of its parameters. -/
def calledKeys (i : Imports) (op : Plan.Operation) : List Reference :=
  op.sendKey :: op.deserializeKey ::
    match op.kind with
    | .longRunning => (typeCode i op.returnType).references
    | .plain => []
    | .paging => []

theorem mem_references_callBody (ho : op.Regular) {key : Reference} :
    (∃ line ∈ callBody op s i, key ∈ line.references) ↔ key ∈ calledKeys i op ∨ ParameterKey s op key := by
  have hcontext : key = .parameter s "context" → ParameterKey s op key := by
    rintro rfl
    exact parameterKey_context
  have hoptions : key = .parameter s "options" → ParameterKey s op key := by
    rintro rfl
    exact parameterKey_argument ho.options_mem
  unfold callBody calledKeys
  cases op.kind <;> simp [mem_references_sendCall, references_optionsRef ho] <;> grind

theorem refersTo_callBody (hi : i.ParameterFree) (ho : op.Regular) :
    RefersTo (callBody op s i) s ("context" :: op.argumentNames) (calledKeys i op) := by
  refine ⟨fun line hline key hkey => (mem_references_callBody ho).1 ⟨line, hline, hkey⟩,
    fun key hkey => (mem_references_callBody ho).2 (.inl hkey), fun key hkey => ?_⟩
  rcases List.mem_cons.1 hkey with rfl | hkey
  · simp [Plan.Operation.sendKey, Reference.sendFunction]
  rcases List.mem_cons.1 hkey with rfl | hkey
  · simp [Plan.Operation.deserializeKey, Reference.deserializeFunction]
  · have htype : key ∈ (typeCode i op.returnType).references := by
      revert hkey
      cases op.kind <;> simp
    rw [references_typeCode] at htype
    obtain ⟨token, _, htoken⟩ := List.mem_filterMap.1 htype
    exact hi token key (mem_symbols_of_importedKey? htoken)

theorem refersTo_constructorMethod {c : Plan.ClientClass} (hi : c.imports.ParameterFree) :
    RefersTo (constructorMethod c).body "constructor" ((constructorParams c).map Param.name)
      (factoryCode c).references := by
  refine ⟨?_, fun key hkey => ?_, fun key hkey => ?_⟩
  · simp [constructorMethod, List.flatMap_map, eq_comm]
  · exact ⟨_, List.mem_cons_self, by simp [hkey]⟩
  · unfold factoryCode at hkey
    cases himported : importedKey? c.imports c.names.factoryName with
    | none => simp [himported] at hkey
    | some key' =>
      obtain rfl : key = key' := by simpa [himported] using hkey
      exact hi _ key (mem_symbols_of_importedKey? himported)

theorem refersTo_operationMethod (i : Imports) (op : Plan.Operation) :
    RefersTo (operationMethod i op).body (op.name ++ "Method") ((methodParams i op).map Param.name)
      [op.functionKey] := by
  rw [methodParams, map_name_params]
  refine ⟨?_, ?_, ?_⟩
  · simp [operationMethod, Plan.Operation.argumentNames, List.flatMap_map, eq_comm]
  · simp [operationMethod]
  · simp [Plan.Operation.functionKey, Reference.operationFunction]

/-! ## Names in the bodies -/

/-- The functions and types that the function for callers refers to. -/
def calledNames (f : Plan.OperationFile) : List String :=
  f.operation.sendName :: f.operation.deserializeName ::
    match f.operation.kind with
    | .longRunning => (typeTokens f.operation.returnType).filter fun token => (importedKey? f.imports token).isSome
    | .plain => []
    | .paging => []

/-- What the bodies of a part refer to besides their parameters, each time with the names of the parameters there. -/
def mentions : Plan.Part → List (List String × List String)
  | .packageJson _ => []
  | .clientDefinitions _ => []
  | .clientClass c =>
    ([c.names.factoryName], "endpointParam" :: c.clientParameters.map Plan.Parameter.name ++ ["options"]) ::
      c.operations.map fun op => ([op.name], op.argumentNames)
  | .operationFile f => [(calledNames f, "context" :: f.operation.argumentNames)]

/-- The tree of a part of source code. -/
def tree? : Plan.Part → Option Source.File
  | .packageJson _ => none
  | .clientDefinitions d => some (clientDefinitions d)
  | .clientClass c => some (clientClass c)
  | .operationFile f => some (operationFile f)

theorem exists_calledKeys_iff {f : Plan.OperationFile} (h : Source.DistinctSymbols (operationFile f).symbols) :
    (∃ key ∈ calledKeys f.imports f.operation, (operationFile f).scope key = some name) ↔ name ∈ calledNames f := by
  have hresolves : Resolves f.imports (operationFile f).scope := resolves_scope rfl h
  have hdeclares := declares_operationFile h
  have htypes : (∃ key ∈ (typeCode f.imports f.operation.returnType).references,
      (operationFile f).scope key = some name) ↔
        name ∈ (typeTokens f.operation.returnType).filter fun token => (importedKey? f.imports token).isSome := by
    rw [references_typeCode, List.mem_filter, Option.isSome_iff_exists]
    constructor
    · rintro ⟨key, hkey, hscope⟩
      obtain ⟨token, htoken, himported⟩ := List.mem_filterMap.1 hkey
      rw [hresolves token key (mem_symbols_of_importedKey? himported), Option.some.injEq] at hscope
      exact hscope ▸ ⟨htoken, key, himported⟩
    · rintro ⟨htoken, key, himported⟩
      exact ⟨key, List.mem_filterMap.2 ⟨name, htoken, himported⟩,
        hresolves name key (mem_symbols_of_importedKey? himported)⟩
  simp only [calledKeys, calledNames, List.mem_cons, or_and_right, exists_or, exists_eq_left, hdeclares.send,
    hdeclares.deserialize, Option.some.injEq, eq_comm (b := name)]
  cases f.operation.kind with
  | longRunning => rw [htypes]
  | plain => simp
  | paging => simp

theorem capturedIn_scopedParams_iff {contextType : String} {scope : Source.Scope} {body : List Code}
    {keys : List Reference} (h : RefersTo body s ("context" :: op.argumentNames) keys) :
    CapturedIn scope (body.map (Passage.mk (scopedParams i s contextType op))) name ↔
      name ∈ "context" :: op.argumentNames ∧ ∃ key ∈ keys, scope key = some name := by
  rw [← map_name_scopedParams i s op contextType] at h ⊢
  exact h.capturedIn_iff (keyedIn_scopedParams i s op contextType)

theorem captured_operationFile_iff {f : Plan.OperationFile} (h : Source.DistinctSymbols (operationFile f).symbols)
    (hi : f.imports.ParameterFree) (ho : f.operation.Regular) :
    (operationFile f).Captured name ↔ ∃ e ∈ mentions (.operationFile f), name ∈ e.1 ∧ name ∈ e.2 := by
  have hsend : CapturedIn (operationFile f).scope (sendFunction f.operation f.contextType f.imports).content.bodies
      name ↔ _ := capturedIn_scopedParams_iff (refersTo_sendBody ho)
  have hdeserialize : CapturedIn (operationFile f).scope (deserializeFunction f.operation f.imports).content.bodies
      name ↔ _ :=
    RefersTo.capturedIn_iff refersTo_deserializeBody (keyedIn_plainParam "result" (Code.text "PathUncheckedResponse"))
  have hcall : CapturedIn (operationFile f).scope (callFunction f.operation f.contextType f.imports).content.bodies
      name ↔ _ := capturedIn_scopedParams_iff (refersTo_callBody hi ho)
  rw [exists_calledKeys_iff h] at hcall
  rw [Source.File.Captured, Source.File.bodies, capturedIn_flatMap]
  simp only [operationFile, List.exists_mem_cons_iff]
  rw [← operationFile, hsend, hdeserialize, hcall]
  simp [mentions, and_comm]

theorem exists_importedKey? {key : Reference} (h : (name, some key) ∈ i.symbols) :
    ∃ key', importedKey? i name = some key' := by
  rw [← Option.isSome_iff_exists, importedKey?, List.findSome?_isSome_iff]
  exact ⟨(name, some key), List.mem_reverse.2 h, by simp⟩

theorem bodies_clientClass (c : Plan.ClientClass) :
    (clientClass c).bodies = (constructorMethod c).body.map (Passage.mk (constructorParams c)) ++
      c.operations.flatMap fun op =>
        (operationMethod c.imports op).body.map (Passage.mk (methodParams c.imports op)) := by
  simp only [Source.File.bodies, clientClass, Source.Content.bodies, classFields, List.flatMap_cons, List.flatMap_nil,
    List.flatMap_append, List.flatMap_map, Source.ClassMember.bodies, List.nil_append, List.append_nil]
  rfl

theorem captured_clientClass_iff {c : Plan.ClientClass} (h : Source.DistinctSymbols (clientClass c).symbols)
    (hi : c.imports.ParameterFree) (hops : ∀ op ∈ c.operations, (op.name, some op.functionKey) ∈ c.imports.symbols)
    (hfactory : ∃ key, (c.names.factoryName, some key) ∈ c.imports.symbols) :
    (clientClass c).Captured name ↔ ∃ e ∈ mentions (.clientClass c), name ∈ e.1 ∧ name ∈ e.2 := by
  have hresolves : Resolves c.imports (clientClass c).scope := resolves_scope rfl h
  have hcreate : (∃ key ∈ (factoryCode c).references, (clientClass c).scope key = some name) ↔
      name = c.names.factoryName := by
    obtain ⟨key, hkey⟩ := hfactory
    obtain ⟨key', himported⟩ := exists_importedKey? hkey
    have hscope := hresolves _ key' (mem_symbols_of_importedKey? himported)
    simp [factoryCode, himported, hscope, eq_comm]
  have hmethods : (∃ op ∈ c.operations, CapturedIn (clientClass c).scope
      ((operationMethod c.imports op).body.map (Passage.mk (methodParams c.imports op))) name) ↔
        ∃ op ∈ c.operations, name = op.name ∧ name ∈ op.argumentNames := by
    refine exists_congr fun op => and_congr_right fun hop => ?_
    rw [(refersTo_operationMethod c.imports op).capturedIn_iff (keyedIn_params true op.parameters), methodParams,
      map_name_params, and_comm]
    simp [hresolves _ _ (hops op hop), Plan.Operation.argumentNames, eq_comm]
  rw [Source.File.Captured, bodies_clientClass, capturedIn_append, capturedIn_flatMap, hmethods,
    (refersTo_constructorMethod hi).capturedIn_iff (keyedIn_constructorParams c), hcreate, map_name_constructorParams]
  simp only [mentions, List.exists_mem_cons_iff, List.mem_singleton, List.mem_map, exists_exists_and_eq_and]
  rw [and_comm (a := name = c.names.factoryName)]

/-- No body stands in the client definitions. -/
theorem bodies_clientDefinitions (d : Plan.ClientDefinitions) : (clientDefinitions d).bodies = [] := by
  rw [Source.File.bodies, List.flatMap_eq_nil_iff]
  intro decl hdecl
  simp only [clientDefinitions, List.mem_append, List.mem_cons, List.mem_map] at hdecl
  rcases hdecl with (rfl | ⟨g, _, rfl⟩) | rfl | hdecl
  · rfl
  · rfl
  · rfl
  · cases hdecl

end Declarative

/-! ## Planned files -/

variable {m : Service.Model} {ops : List Plan.Operation}

open Declarative (mentions tree?)

theorem captured_planned_iff (h : Plan.operations m = .ok ops) {part : Plan.Part}
    (hpart : part ∈ Plan.sourceParts m ops) {tree : Source.File} (htree : tree? part = some tree)
    (hd : Source.DistinctSymbols tree.symbols) {name : String} :
    tree.Captured name ↔ ∃ e ∈ mentions part, name ∈ e.1 ∧ name ∈ e.2 := by
  rcases Plan.mem_sourceParts_iff.1 hpart with rfl | rfl | ⟨op, hop, rfl⟩
  · obtain rfl := Option.some.inj htree
    simp [Source.File.Captured, Declarative.bodies_clientDefinitions, Source.CapturedIn, mentions]
  · obtain rfl := Option.some.inj htree
    exact Declarative.captured_clientClass_iff hd (Plan.parameterFree_classImports _ ops _)
      (fun op hop => Plan.functionKey_mem_classImports
        (fun op hop => (Plan.regular_of_mem_operations h hop).optionsType) hop)
      ⟨_, (Plan.takes_factory m.clientName ops _).mem_symbols⟩
  · obtain rfl := Option.some.inj htree
    exact Declarative.captured_operationFile_iff hd (Plan.parameterFree_operationImports op)
      (Plan.regular_of_mem_operations h hop)

theorem exists_tree_of_emit {part : Plan.Part} (hpart : part ∈ Plan.sourceParts m ops) {file : GeneratedFile}
    (hfile : Declarative.emit part = .ok file) :
    ∃ tree, tree? part = some tree ∧ Source.render tree = .ok file.content := by
  rcases Plan.mem_sourceParts_iff.1 hpart with rfl | rfl | ⟨op, _, rfl⟩
  all_goals
    rw [Declarative.emit, Declarative.rendered_eq_ok_iff] at hfile
    exact ⟨_, rfl, hfile.2⟩

/-- The names that an emitted file captures are those of the functions and types in its bodies that a parameter there
has too. Where there are none, whatever a body refers to besides its parameters is reached under the name that is
rendered. -/
theorem emit_capture_spec (h : Plan.operations m = .ok ops) {part : Plan.Part}
    (hpart : part ∈ Plan.sourceParts m ops) {file : GeneratedFile} (hfile : Declarative.emit part = .ok file) :
    ∃ tree, tree? part = some tree ∧ Source.render tree = .ok file.content ∧
      (∀ name, tree.Captured name ↔ ∃ e ∈ mentions part, name ∈ e.1 ∧ name ∈ e.2) ∧
      ((∀ e ∈ mentions part, ∀ name ∈ e.1, name ∉ e.2) → ∀ x ∈ tree.bodies, ∀ key ∈ x.code.references,
        Source.paramName? x.params key = none → ∃ name, Source.withParams x.params tree.scope key = some name ∧
          Source.StandsFor x.params tree.symbols name (name, some key)) := by
  obtain ⟨tree, htree, hrender⟩ := exists_tree_of_emit hpart hfile
  have hcaptured : ∀ name, tree.Captured name ↔ ∃ e ∈ mentions part, name ∈ e.1 ∧ name ∈ e.2 := fun name =>
    captured_planned_iff h hpart htree (Source.distinctSymbols_of_render hrender)
  refine ⟨tree, htree, hrender, hcaptured, fun hdisjoint x hx key hkey hparam => ?_⟩
  have hfree : tree.CaptureFree := by
    intro name hname
    obtain ⟨e, he, hcalled, hparameter⟩ := (hcaptured name).1 hname
    exact hdisjoint e he name hcalled hparameter
  exact hfree.standsFor hrender hx hkey hparam

theorem emit_capture_spec_things :
    ∃ file, Declarative.emit (.clientClass (Plan.clientClass things plannedThings)) = .ok file ∧
      mentions (.clientClass (Plan.clientClass things plannedThings)) =
        [(["createThings"], ["endpointParam", "options"]), (["readThing"], ["id", "options"])] ∧
      ∃ tree, tree? (.clientClass (Plan.clientClass things plannedThings)) = some tree ∧
        Source.render tree = .ok file.content ∧ (∀ name, ¬ tree.Captured name) ∧
        ∀ x ∈ tree.bodies, ∀ key ∈ x.code.references, Source.paramName? x.params key = none →
          ∃ name, Source.withParams x.params tree.scope key = some name ∧
            Source.StandsFor x.params tree.symbols name (name, some key) := by
  have hpart : .clientClass (Plan.clientClass things plannedThings) ∈ Plan.sourceParts things plannedThings :=
    List.mem_cons_of_mem _ List.mem_cons_self
  have hmentions : mentions (.clientClass (Plan.clientClass things plannedThings)) =
      [(["createThings"], ["endpointParam", "options"]), (["readThing"], ["id", "options"])] := by
    decide +kernel
  obtain ⟨file, hfile⟩ := Declarative.exists_emit_of_all (by decide +kernel) _ hpart
  obtain ⟨tree, htree, hrender, hcaptured, hreached⟩ := emit_capture_spec operations_things hpart hfile
  rw [hmentions] at hcaptured hreached
  have hdisjoint : ∀ e ∈ [(["createThings"], ["endpointParam", "options"]), (["readThing"], ["id", "options"])],
      ∀ name ∈ e.1, name ∉ e.2 := by
    decide
  refine ⟨file, hfile, hmentions, tree, htree, hrender, fun name hname => ?_, hreached hdisjoint⟩
  obtain ⟨e, he, hcalled, hparameter⟩ := (hcaptured name).1 hname
  exact hdisjoint e he name hcalled hparameter

/-- An operation with a parameter of its own name. -/
def searches : Service.Model where
  options := things.options
  sourcePath := "src"
  paths :=
    ⟨[("/things", ⟨"things", none, [],
        [⟨"search", .get, none, ⟨"ThingList", []⟩, [⟨"search", "string", "query", false, false, none, false⟩], none,
          none⟩]⟩)], by simp⟩

def plannedSearches : List Plan.Operation :=
  [Plan.plannedOperation "search" "/things" none
    ⟨"search", .get, none, ⟨"ThingList", []⟩, [⟨"search", "string", "query", false, false, none, false⟩], none, none⟩
    [(false, ⟨"search", "string", false, .query false⟩)]]

/-- The method of the class is meant to call the imported function, and calls its own parameter. -/
theorem emit_captures_search : Plan.operations searches = .ok plannedSearches ∧
    let cls := Plan.clientClass searches plannedSearches
    let tree := Declarative.clientClass cls
    ∃ file, Declarative.emit (.clientClass cls) = .ok file ∧ Source.render tree = .ok file.content ∧
      ("search", some (.operationFunction "search")) ∈ tree.symbols ∧
      (∃ x ∈ tree.bodies, .operationFunction "search" ∈ x.code.references ∧
        "search" ∈ x.params.map Source.Param.name ∧
        (Source.renderCode (Source.withParams x.params tree.scope) x.code).toOption =
          some "return search(this._client, search, options);") ∧
      ¬ tree.CaptureFree := by
  have hplan : Plan.operations searches = .ok plannedSearches := rfl
  have hpart : .clientClass (Plan.clientClass searches plannedSearches) ∈ Plan.sourceParts searches plannedSearches :=
    List.mem_cons_of_mem _ List.mem_cons_self
  obtain ⟨file, hfile⟩ := Declarative.exists_emit_of_all (by decide +kernel) _ hpart
  obtain ⟨tree, htree, hrender⟩ := exists_tree_of_emit hpart hfile
  obtain rfl := Option.some.inj htree
  have hcaptured : (Declarative.clientClass (Plan.clientClass searches plannedSearches)).Captured "search" := by
    decide +kernel
  exact ⟨hplan, file, hfile, hrender, by decide +kernel, by decide +kernel, fun hfree => hfree "search" hcaptured⟩

end ClientGen
