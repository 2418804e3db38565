import ClientGen.Declarative.Emitter
import ClientGen.Proofs.Declarative.TypeCode
import ClientGen.Proofs.Emission.Outline

/-!
# The client class

The tree of the client class renders to the lines of its template: the fields stand together, and a blank line comes
before the constructor and before each method.
-/

namespace ClientGen.Declarative

open Source (Code Scope KeyedIn RendersLines renderCode renderCode_append renderLine_eq_ok_iff withParams)

variable {i : Imports} {scope : Scope} {c : Plan.ClientClass} {op : Plan.Operation}

/-! ## The constructor -/

theorem keyedIn_constructorParams (c : Plan.ClientClass) : KeyedIn "constructor" (constructorParams c) := by
  simp only [KeyedIn, constructorParams, List.cons_append, List.forall_mem_cons, List.forall_mem_append]
  exact ⟨rfl, keyedIn_params false c.clientParameters, by simp [plainParam]⟩

theorem map_name_constructorParams (c : Plan.ClientClass) :
    (constructorParams c).map Source.Param.name =
      "endpointParam" :: c.clientParameters.map Plan.Parameter.name ++ ["options"] := by
  simp [constructorParams, map_name_params, plainParam]

theorem renderParam_constructorParams (h : Resolves c.imports scope) :
    (constructorParams c).mapM (Source.renderParam scope) =
      .ok ("endpointParam: string" :: c.clientParameters.map Plan.Parameter.signature ++
        ["options: " ++ c.names.optionalParamsType ++ " = \x7b\x7d"]) := by
  have hendpoint : Source.renderParam scope (plainParam "constructor" "endpointParam" (Code.text "string")) =
      .ok "endpointParam: string" := by
    simp [Source.renderParam, plainParam]
  have hoptions : Source.renderParam scope
      { plainParam "constructor" "options" (typeCode c.imports c.names.optionalParamsType) with
        default := some (Code.text "\x7b\x7d") } =
          .ok ("options: " ++ c.names.optionalParamsType ++ " = \x7b\x7d") := by
    simp [Source.renderParam, plainParam, renderCode_typeCode h, String.append_assoc]
  rw [constructorParams, List.cons_append, List.mapM_cons, List.mapM_append, hendpoint, renderParam_signature h,
    List.mapM_cons, hoptions]
  rfl

theorem renderCode_factoryCode (h : Resolves c.imports scope) :
    renderCode scope (factoryCode c) = .ok c.names.factoryName := by
  unfold factoryCode
  cases hkey : importedKey? c.imports c.names.factoryName with
  | none => exact Source.renderCode_text _
  | some key => exact Source.renderCode_ref (h _ key (mem_symbols_of_importedKey? hkey))

theorem renderCode_constructorArguments (c : Plan.ClientClass) :
    renderCode (withParams (constructorParams c) scope)
      (Code.joined ", " ((constructorParams c).map fun p => paramRef "constructor" p.name)) =
        .ok (Baseline.constructorArguments c) := by
  have hnames : Source.Renders (withParams (constructorParams c) scope)
      ((constructorParams c).map fun p => paramRef "constructor" p.name)
      ((constructorParams c).map Source.Param.name) := by
    refine Source.renders_map fun p hp => ?_
    exact Source.renderCode_ref
      (Source.withParams_parameter (keyedIn_constructorParams c) (List.mem_map_of_mem hp))
  rw [Source.renderCode_joined hnames, map_name_constructorParams]
  rfl

/-- The lines of the constructor. -/
def constructorLines (c : Plan.ClientClass) : List String :=
  ["  constructor(" ++ Baseline.constructorParameters c ++ ") \x7b",
   "    this._client = " ++ c.names.factoryName ++ "(" ++ Baseline.constructorArguments c ++ ");",
   "    this.pipeline = this._client.pipeline;",
   "  \x7d"]

theorem renderMethod_constructor (h : Resolves c.imports scope) (hp : c.imports.ParameterFree) :
    Source.renderMethod scope "constructor" none (constructorMethod c) = .ok (Text.unlines (constructorLines c)) := by
  have hi := h.withParams hp (keyedIn_constructorParams c)
  have hbody : RendersLines (withParams (constructorParams c) scope) 2 (constructorMethod c).body
      ["    this._client = " ++ c.names.factoryName ++ "(" ++ Baseline.constructorArguments c ++ ");",
        "    this.pipeline = this._client.pipeline;"] := by
    refine .cons ?_ (.cons ?_ .nil)
    · simp [renderLine_eq_ok_iff, renderCode_append, renderCode_factoryCode hi, renderCode_constructorArguments]
    · simp [renderLine_eq_ok_iff]
  refine (Source.renderMethod_eq (m := constructorMethod c) rfl (renderParam_constructorParams hi) rfl hbody).trans ?_
  simp [constructorLines, constructorMethod, Baseline.constructorParameters, Source.docComment, Source.indent,
    String.append_assoc]

/-! ## Methods -/

/-- The parameters of a method. -/
abbrev methodParams (i : Imports) (op : Plan.Operation) : List Source.Param :=
  params i (op.name ++ "Method") true op.parameters

theorem renderCode_methodArguments (i : Imports) (op : Plan.Operation) :
    renderCode (withParams (methodParams i op) scope)
      (Code.joined ", " (Code.text "this._client" :: op.argumentNames.map (paramRef (op.name ++ "Method")))) =
        .ok (Text.joined ", " ("this._client" :: op.argumentNames)) := by
  apply Source.renderCode_joined
  refine .cons (Source.renderCode_text _) ?_
  rw [← List.map_id op.argumentNames, List.map_map]
  refine Source.renders_map fun name hm => ?_
  have hkeyed : KeyedIn (op.name ++ "Method") (methodParams i op) := keyedIn_params true op.parameters
  refine Source.renderCode_ref (Source.withParams_parameter hkeyed ?_)
  rw [methodParams, map_name_params]
  exact hm

theorem renderMethod_operation (h : Resolves i scope) (hp : i.ParameterFree)
    (hop : (op.name, some op.functionKey) ∈ i.symbols) :
    Source.renderMethod scope op.name (some (typeCode i op.returnType)) (operationMethod i op) =
      .ok (Source.docComment op.description "  " ++ Text.unlines (Baseline.methodCode op)) := by
  have hi : Resolves i (withParams (methodParams i op) scope) := h.withParams hp (keyedIn_params true op.parameters)
  have hfunction := Source.renderCode_ref (hi _ _ hop)
  have hbody : RendersLines (withParams (methodParams i op) scope) 2 (operationMethod i op).body
      ["    return " ++ op.name ++ "(this._client" ++ Text.concat (op.argumentNames.map (", " ++ ·)) ++ ");"] := by
    refine .cons ?_ .nil
    simp [renderLine_eq_ok_iff, renderCode_append, hfunction, renderCode_methodArguments, Text.joined_cons]
  have hreturn : Source.renderReturn (withParams (methodParams i op) scope) (some (typeCode i op.returnType)) =
      .ok (": " ++ op.returnType) := by
    simp [Source.renderReturn, renderCode_typeCode hi]
  refine (Source.renderMethod_eq (m := operationMethod i op) rfl (renderParam_declaration hi op.parameters) hreturn
    hbody).trans ?_
  refine congrArg Except.ok (String.toList_injective ?_)
  simp [operationMethod, Baseline.methodCode, Plan.Operation.declaration, Source.indent]

/-! ## The class -/

theorem renderMembersAfter_methods {α : Type} {previous : Source.ClassMember} {l : List α} {f : α → Source.Method}
    {g : α → String} (h : ∀ a ∈ l, Source.renderMethod scope (f a).name (f a).returnType (f a) = .ok (g a)) :
    Source.renderMembersAfter scope previous (l.map fun a => .method (f a)) =
      .ok (Text.concat (l.map fun a => "\n" ++ g a)) := by
  induction l generalizing previous with
  | nil => rfl
  | cons a l ih =>
    have hrest := @ih (.method (f a)) fun b hb => h b (List.mem_cons_of_mem _ hb)
    simp only [List.map_cons, Source.renderMembersAfter, Source.renderClassMember, h a List.mem_cons_self, hrest]
    simp [Source.ClassMember.isField]

theorem renderMembers_class (h : Resolves c.imports scope) (hp : c.imports.ParameterFree)
    (hops : ∀ op ∈ c.operations, (op.name, some op.functionKey) ∈ c.imports.symbols) :
    Source.renderMembers scope (classFields c ++ .constructor (constructorMethod c) ::
      c.operations.map fun op => .method (operationMethod c.imports op)) =
        .ok (Text.unlines (["  private _client: " ++ c.names.contextType ++ ";",
          "  public readonly pipeline: Pipeline;", ""] ++ constructorLines c) ++
          Text.concat (c.operations.map fun op => (Outline.ofMethod op).write Comment.starred)) := by
  have hmethods : ∀ previous, Source.renderMembersAfter scope previous
      (c.operations.map fun op => .method (operationMethod c.imports op)) =
        .ok (Text.concat (c.operations.map fun op => "\n" ++
          (Source.docComment op.description "  " ++ Text.unlines (Baseline.methodCode op)))) := fun previous =>
    renderMembersAfter_methods fun op hop => renderMethod_operation h hp (hops op hop)
  have hconstructor := renderMethod_constructor h hp
  simp [classFields, Source.renderMembers, Source.renderMembersAfter, Source.renderClassMember, Source.renderField,
    renderCode_typeCode h, hconstructor, hmethods, Source.ClassMember.isField, Outline.ofMethod, Source.indent,
    String.append_assoc]

/-- The file of the client class is its outline with starred comments. -/
theorem render_clientClass (h : Source.DistinctSymbols (clientClass c).symbols) (hne : c.imports.entries ≠ [])
    (hp : c.imports.ParameterFree)
    (hops : ∀ op ∈ c.operations, (op.name, some op.functionKey) ∈ c.imports.symbols) :
    Source.render (clientClass c) = .ok ((Outline.ofClientClass c).write Comment.starred) := by
  have hi : Resolves c.imports (clientClass c).scope := resolves_scope rfl h
  have htexts : (clientClass c).declarations.mapM (Source.renderDeclaration (clientClass c).scope) =
      .ok [Source.docComment (some (Baseline.classRemark c)) "" ++ Text.unlines (Baseline.classHead c) ++
        Text.concat (c.operations.map fun op => (Outline.ofMethod op).write Comment.starred) ++ "\x7d\n"] := by
    rw [mapM_eq_ok_iff]
    refine .cons ?_ .nil
    have hmembers := renderMembers_class hi hp hops
    simp only [clientClass, Source.renderDeclaration]
    rw [← clientClass, hmembers, ok_bind]
    simp [Baseline.classHead, Baseline.classRemark, constructorLines, Source.exportWord, String.append_assoc]
  refine (render_eq h hne htexts).trans ?_
  simp [Outline.ofClientClass, Outline.write_flatMap, Piece.text, Comment.starred, Comment.text, Comment.margin,
    String.append_assoc]

end ClientGen.Declarative
