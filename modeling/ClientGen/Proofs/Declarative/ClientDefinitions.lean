import ClientGen.Declarative.Emitter
import ClientGen.Proofs.Declarative.TypeCode
import ClientGen.Proofs.Emission.Outline

/-!
# Client definitions

The interfaces and the type of the client in the tree render to the lines of the template. The only references besides
imported names are those from the type of the client to the interfaces before it.
-/

namespace ClientGen.Declarative

open Source (Code Scope renderCode renderCode_append)

variable {i : Imports} {scope : Scope} {d : Plan.ClientDefinitions}

/-! ## Interfaces -/

theorem renderParam_unboundParam (name : String) {type : Code} {text : String} (h : renderCode scope type = .ok text) :
    Source.renderParam scope (unboundParam name type) = .ok (name ++ ": " ++ text) := by
  simp [Source.renderParam, unboundParam, h]

theorem renderInterfaceMember_route (h : Resolves i scope) (r : Plan.Route) :
    Source.renderInterfaceMember scope (routeMember i r) = .ok ((Outline.ofRoute r).write Comment.starred) := by
  have hparams : (routeMember i r).params.mapM (Source.renderParam scope) =
      .ok (("path: " ++ Json.quoted r.path) :: r.parameters.map fun p => p.name ++ ": " ++ p.type) := by
    have hrest : (r.parameters.map fun p => unboundParam p.name (typeCode i p.type)).mapM (Source.renderParam scope) =
        .ok (r.parameters.map fun p => p.name ++ ": " ++ p.type) := by
      rw [List.mapM_map]
      exact mapM_eq_ok_map fun p _ => renderParam_unboundParam p.name (renderCode_typeCode h p.type)
    rw [routeMember, List.mapM_cons, renderParam_unboundParam "path" (Source.renderCode_text _), hrest]
    rfl
  have hdoc : routeDoc r = Baseline.routeRemark r := rfl
  rw [Source.renderInterfaceMember_eq hparams (renderCode_typeCode h r.returnType)]
  simp [routeMember, Outline.ofRoute, Piece.text, Comment.starred, Comment.text, Comment.margin, Baseline.routeCode,
    hdoc, Baseline.routeParameters, Source.indent, String.append_assoc]

theorem renderInterfaceMember_group (h : Resolves i scope) (op : Plan.Operation) :
    Source.renderInterfaceMember scope (groupMember i op) = .ok ((Outline.ofGroupMember op).write Comment.starred) := by
  rw [Source.renderInterfaceMember_eq (renderParam_signature h op.parameters) (renderCode_typeCode h op.returnType)]
  simp [groupMember, Outline.ofGroupMember, Baseline.groupMemberCode, Plan.Operation.signature, Source.indent,
    String.append_assoc]

theorem renderDeclaration_interfaceOf {name : String} {members : List Source.InterfaceMember} {texts : List String}
    (h : members.mapM (Source.renderInterfaceMember scope) = .ok texts) :
    Source.renderDeclaration scope (interfaceOf name members) =
      .ok ("export interface " ++ name ++ " \x7b\n" ++ Text.concat texts ++ "\x7d\n") := by
  simp [Source.renderDeclaration, interfaceOf, h, Source.docComment, Source.exportWord, String.append_assoc]

/-! ## The type of the client -/

/-- In a scope the interfaces of client definitions are called by their own names. -/
structure NamesInterfaces (scope : Scope) (d : Plan.ClientDefinitions) : Prop where
  routes : scope (.type "Routes") = some "Routes"
  groups : ∀ g ∈ d.groups, scope (.type g.interfaceName) = some g.interfaceName

theorem renderCode_shortcutCode {g : Plan.Group} (h : scope (.type g.interfaceName) = some g.interfaceName) :
    renderCode scope (shortcutCode g) = .ok g.shortcut := by
  unfold shortcutCode Plan.Group.shortcut
  cases g.property <;> simp [renderCode_append, Source.renderCode_ref h, String.append_assoc]

theorem renderCode_clientType (h : NamesInterfaces scope d) :
    renderCode scope (clientType d) = .ok (Baseline.clientType d) := by
  have hshortcuts : renderCode scope
      (if d.includeShortcuts then d.groups.flatMap fun g => Code.text " & " ++ shortcutCode g else []) =
        .ok (Text.concat (d.shortcuts.map (" & " ++ ·))) := by
    unfold Plan.ClientDefinitions.shortcuts
    split
    · rw [List.map_map]
      refine Source.renderCode_flatMap fun g hg => ?_
      simp [renderCode_append, renderCode_shortcutCode (h.groups g hg)]
    · rfl
  rw [Baseline.clientType, Text.joined_cons]
  simp [clientType, renderCode_append, Source.renderCode_ref h.routes, hshortcuts, ← String.append_assoc]

/-! ## The file -/

theorem namesInterfaces_clientDefinitions (h : Source.DistinctSymbols (clientDefinitions d).symbols) :
    NamesInterfaces (clientDefinitions d).scope d := by
  constructor
  · exact Source.File.scope_eq_some h (by simp [Source.File.symbols, clientDefinitions, interfaceOf])
  · intro g hg
    have hmem : interfaceOf g.interfaceName (g.operations.map (groupMember d.imports)) ∈
        (clientDefinitions d).declarations :=
      List.mem_append_left _ (List.mem_cons_of_mem _ (List.mem_map_of_mem hg))
    exact Source.File.scope_eq_some h (List.mem_append_right _ (List.mem_map_of_mem hmem))

theorem render_clientDefinitions (h : Source.DistinctSymbols (clientDefinitions d).symbols)
    (hne : d.imports.entries ≠ []) :
    Source.render (clientDefinitions d) = .ok ((Outline.ofClientDefinitions d).write Comment.starred) := by
  have hi : Resolves d.imports (clientDefinitions d).scope := resolves_scope rfl h
  have htexts : (clientDefinitions d).declarations.mapM (Source.renderDeclaration (clientDefinitions d).scope) =
      .ok (("export interface Routes \x7b\n" ++
          Text.concat (d.routes.map fun r => (Outline.ofRoute r).write Comment.starred) ++ "\x7d\n") ::
        ((d.groups.map fun g => "export interface " ++ g.interfaceName ++ " \x7b\n" ++
          Text.concat (g.operations.map fun op => (Outline.ofGroupMember op).write Comment.starred) ++ "\x7d\n") ++
        ["export type " ++ d.names.contextType ++ " = " ++ Baseline.clientType d ++ ";\n"])) := by
    have hroutes : (d.routes.map (routeMember d.imports)).mapM
        (Source.renderInterfaceMember (clientDefinitions d).scope) =
          .ok (d.routes.map fun r => (Outline.ofRoute r).write Comment.starred) := by
      rw [List.mapM_map]
      exact mapM_eq_ok_map fun r _ => renderInterfaceMember_route hi r
    have hmembers : ∀ g ∈ d.groups, (g.operations.map (groupMember d.imports)).mapM
        (Source.renderInterfaceMember (clientDefinitions d).scope) =
          .ok (g.operations.map fun op => (Outline.ofGroupMember op).write Comment.starred) := by
      intro g _
      rw [List.mapM_map]
      exact mapM_eq_ok_map fun op _ => renderInterfaceMember_group hi op
    have htype := renderCode_clientType (namesInterfaces_clientDefinitions h)
    rw [mapM_eq_ok_iff]
    refine .cons (renderDeclaration_interfaceOf hroutes) (List.rel_append ?_ (.cons ?_ .nil))
    · rw [List.forall₂_map_left_iff, List.forall₂_map_right_iff, List.forall₂_same]
      exact fun g hg => renderDeclaration_interfaceOf (hmembers g hg)
    · simp only [Source.renderDeclaration, htype, ok_bind]
      simp [Source.docComment, Source.exportWord, String.append_assoc]
  refine (render_eq h hne htexts).trans ?_
  refine congrArg Except.ok (String.toList_injective ?_)
  simp [Outline.ofClientDefinitions, Outline.ofGroup, Outline.write_flatMap, String.append_assoc, Function.comp_def]

end ClientGen.Declarative
