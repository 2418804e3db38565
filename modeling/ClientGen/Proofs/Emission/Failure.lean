import ClientGen.Proofs.Emission.Agreement
import ClientGen.Proofs.Plan.Names
import ClientGen.Proofs.Plan.Operation
import ClientGen.Proofs.Source.Clash

/-!
# When emitting a planned file fails

The trees of a planned model fail for one reason only, a name that comes twice in a file. A reference key says which
name its declaration has, the same in every file, so that no key stands for two names.
-/

namespace ClientGen

open Source (NamedBy Repeats)

/-! ## The name in a key -/

/-- The name of the declaration that a key stands for. -/
def Reference.declaredName (r : Reference) : String :=
  let name := r.parts.headD ""
  match r.kind with
  | .client => "create" ++ name
  | .clientInterface => name ++ "Context"
  | .sendFunction => "_" ++ name ++ "Send"
  | .deserializeFunction => "_" ++ name ++ "Deserialize"
  | _ => name

namespace Imports

/-- A step takes its name under a key of just that name. -/
def Step.Named (s : Step) : Prop := ∀ key, s.key = some key → s.name = key.declaredName

theorem Step.SelfNamed.named {s : Step} (h : s.SelfNamed) : s.Named := by
  intro key hkey
  rcases h key hkey with rfl | rfl | rfl <;> rfl

theorem namedBy_takeAll {steps : List Step} (h : ∀ s ∈ steps, s.Named) :
    NamedBy Reference.declaredName (empty.takeAll steps).symbols := by
  intro name key hm
  rcases mem_symbols_takeAll hm with hm | ⟨s, hs, heq⟩
  · cases hm
  · obtain ⟨hname, hkey⟩ := Prod.ext_iff.1 heq
    exact hname.trans (h s hs key hkey.symm)

/-- The names of an import set, module by module. -/
def names (i : Imports) : List String := i.symbols.map Prod.fst

end Imports

namespace Plan

theorem named_factoryStep (client : String) : (factoryStep (ClientNames.ofName client)).Named := by
  intro key hkey
  obtain rfl := Option.some.inj hkey
  exact factoryName_ofName client

theorem namedBy_operationImports (op : Operation) :
    NamedBy Reference.declaredName (operationImports op).symbols := by
  rw [operationImports_eq]
  exact Imports.namedBy_takeAll fun s hs => (selfNamed_operationSteps op s hs).named

theorem namedBy_definitionsImports (routes : List Route) (ops : List Operation) :
    NamedBy Reference.declaredName (definitionsImports routes ops).symbols := by
  rw [definitionsImports_eq]
  exact Imports.namedBy_takeAll fun s hs => (selfNamed_definitionsSteps routes ops s hs).named

theorem namedBy_classImports (client : String) (ops : List Operation) (clientParameters : List Parameter) :
    NamedBy Reference.declaredName (classImports (ClientNames.ofName client) ops clientParameters).symbols := by
  rw [classImports_eq]
  refine Imports.namedBy_takeAll fun s hs => ?_
  rcases eq_factoryStep_or_selfNamed (ClientNames.ofName client) ops clientParameters s hs with rfl | hself
  · exact named_factoryStep client
  · exact hself.named

end Plan

namespace Declarative

theorem symbols_eq {f : Source.File} {i : Imports} (h : f.imports = importsOf i) :
    f.symbols = i.symbols ++ f.declarations.map fun d => (d.name, d.key) := by
  rw [Source.File.symbols, h, flatMap_names_importsOf]

/-- The keys of a file name what they stand for if those of its imports and of its declarations do. -/
theorem namedBy_symbols {f : Source.File} {i : Imports} (h : f.imports = importsOf i)
    (himports : NamedBy Reference.declaredName i.symbols)
    (hdeclarations : ∀ d ∈ f.declarations, ∀ key, d.key = some key → d.name = key.declaredName) :
    NamedBy Reference.declaredName f.symbols := by
  intro name key hm
  rw [symbols_eq h, List.mem_append] at hm
  rcases hm with hm | hm
  · exact himports name key hm
  · obtain ⟨d, hd, heq⟩ := List.mem_map.1 hm
    obtain ⟨rfl, hkey⟩ := Prod.ext_iff.1 heq
    exact hdeclarations d hd key hkey

theorem namedBy_operationFile {f : Plan.OperationFile} (h : NamedBy Reference.declaredName f.imports.symbols) :
    NamedBy Reference.declaredName (operationFile f).symbols := by
  refine namedBy_symbols rfl h fun d hd key hkey => ?_
  simp only [operationFile, List.mem_cons, List.not_mem_nil, or_false] at hd
  rcases hd with rfl | rfl | rfl <;> cases hkey <;> rfl

theorem namedBy_clientClass {c : Plan.ClientClass} (h : NamedBy Reference.declaredName c.imports.symbols) :
    NamedBy Reference.declaredName (clientClass c).symbols := by
  refine namedBy_symbols rfl h fun d hd key hkey => ?_
  obtain rfl := List.mem_singleton.1 hd
  cases hkey
  rfl

theorem namedBy_clientDefinitions {d : Plan.ClientDefinitions} (h : NamedBy Reference.declaredName d.imports.symbols)
    (hcontext : d.names.contextType = d.names.base ++ "Context") :
    NamedBy Reference.declaredName (clientDefinitions d).symbols := by
  refine namedBy_symbols rfl h fun decl hdecl key hkey => ?_
  rcases List.mem_append.1 hdecl with hdecl | hdecl
  · rcases List.mem_cons.1 hdecl with rfl | hdecl
    · obtain rfl := Option.some.inj hkey
      rfl
    · obtain ⟨g, _, rfl⟩ := List.mem_map.1 hdecl
      obtain rfl := Option.some.inj hkey
      rfl
  · obtain rfl := List.mem_singleton.1 hdecl
    obtain rfl := Option.some.inj hkey
    exact hcontext

end Declarative

/-! ## The names in a part -/

namespace Plan

/-- The names in a file of source code: those that it imports, then those that it declares. -/
def Part.names : Part → List String
  | .packageJson _ => []
  | .clientDefinitions d =>
    d.imports.names ++ "Routes" :: d.groups.map Group.interfaceName ++ [d.names.contextType]
  | .clientClass c => c.imports.names ++ [c.names.className]
  | .operationFile f => f.imports.names ++ [f.operation.sendName, f.operation.deserializeName, f.operation.name]

end Plan

namespace Declarative

theorem names_operationFile (f : Plan.OperationFile) :
    (operationFile f).names = (Plan.Part.operationFile f).names := by
  rw [← Source.File.map_fst_symbols, symbols_eq rfl]
  simp [Plan.Part.names, Imports.names, operationFile, sendFunction, deserializeFunction, callFunction]

theorem names_clientClass (c : Plan.ClientClass) : (clientClass c).names = (Plan.Part.clientClass c).names := by
  rw [← Source.File.map_fst_symbols, symbols_eq rfl]
  simp [Plan.Part.names, Imports.names, clientClass]

theorem names_clientDefinitions (d : Plan.ClientDefinitions) :
    (clientDefinitions d).names = (Plan.Part.clientDefinitions d).names := by
  rw [← Source.File.map_fst_symbols, symbols_eq rfl]
  simp [Plan.Part.names, Imports.names, clientDefinitions, interfaceOf, Function.comp_def]

theorem rendered_eq_error_iff {path : String} {f : Source.File} {e : EmitError} :
    rendered path f = .error e ↔ ∃ e', Source.render f = .error e' ∧ e = .ofRender e' := by
  unfold rendered
  cases Source.render f with
  | error e' => simp [eq_comm]
  | ok text => simp

/-- A file fails with the first name that comes twice if its tree does. -/
theorem rendered_eq_error_iff_repeats {path : String} {f : Source.File} {names : List String} {e : EmitError}
    (hnames : f.names = names) (hkeys : NamedBy Reference.declaredName f.symbols)
    (hrender : Source.DistinctSymbols f.symbols → ∃ text, Source.render f = .ok text) :
    rendered path f = .error e ↔
      ∃ name, Repeats name names ∧ e = .render (Source.RenderError.duplicateDeclaration name).message := by
  rw [rendered_eq_error_iff, ← hnames]
  constructor
  · rintro ⟨e', hfail, rfl⟩
    obtain ⟨name, hname, rfl⟩ := (Source.render_eq_error_iff hkeys hrender).1 hfail
    exact ⟨name, hname, rfl⟩
  · rintro ⟨name, hname, rfl⟩
    exact ⟨_, (Source.render_eq_error_iff hkeys hrender).2 ⟨name, hname, rfl⟩, rfl⟩

end Declarative

/-! ## Failures -/

variable {m : Service.Model} {ops : List Plan.Operation}

theorem emit_eq_error_iff_repeats (h : Plan.operations m = .ok ops) {part : Plan.Part}
    (hpart : part ∈ Plan.sourceParts m ops) {e : EmitError} :
    Declarative.emit part = .error e ↔
      ∃ name, Repeats name part.names ∧ e = .render (Source.RenderError.duplicateDeclaration name).message := by
  rcases Plan.mem_sourceParts_iff.1 hpart with rfl | rfl | ⟨op, hop, rfl⟩
  · rw [Declarative.emit]
    exact Declarative.rendered_eq_error_iff_repeats (Declarative.names_clientDefinitions _)
      (Declarative.namedBy_clientDefinitions (Plan.namedBy_definitionsImports _ ops) (Plan.contextType_ofName _))
      fun hs => ⟨_, render_plannedClientDefinitions hs⟩
  · rw [Declarative.emit]
    exact Declarative.rendered_eq_error_iff_repeats (Declarative.names_clientClass _)
      (Declarative.namedBy_clientClass (Plan.namedBy_classImports _ ops _))
      fun hs => ⟨_, render_plannedClientClass h hs⟩
  · rw [Declarative.emit]
    exact Declarative.rendered_eq_error_iff_repeats (Declarative.names_operationFile _)
      (Declarative.namedBy_operationFile (Plan.namedBy_operationImports op))
      fun hs => ⟨_, render_plannedOperationFile h hop hs⟩

/-- A tree cannot be emitted exactly if a name stands twice among those of its part. -/
theorem exists_emit_eq_error_iff (h : Plan.operations m = .ok ops) {part : Plan.Part}
    (hpart : part ∈ Plan.sourceParts m ops) : (∃ e, Declarative.emit part = .error e) ↔ ¬ part.names.Nodup := by
  rw [← Source.exists_repeats_iff]
  constructor
  · rintro ⟨e, he⟩
    obtain ⟨name, hname, _⟩ := (emit_eq_error_iff_repeats h hpart).1 he
    exact ⟨name, hname⟩
  · rintro ⟨name, hname⟩
    exact ⟨_, (emit_eq_error_iff_repeats h hpart).2 ⟨name, hname, rfl⟩⟩

theorem duplicate_message_ne_conflicting (name key existing other : String) :
    (Source.RenderError.duplicateDeclaration name).message ≠
      (Source.RenderError.conflictingSymbol key existing other).message := by
  intro h
  have hlists := congrArg String.toList h
  change ("`" ++ name ++ _).toList = ("reference `" ++ key ++ _ ++ existing ++ _ ++ other ++ _).toList at hlists
  simp only [String.toList_append, List.append_assoc] at hlists
  have hfirst : '\x60' = 'r' := (List.cons.inj hlists).1
  exact absurd hfirst (by decide)

/-- A planned file of source code can be emitted exactly if no name in it comes twice, and otherwise the error names
the first one that does. A reference without a declaration and a key with two names are never why. -/
theorem emit_failure_spec (h : Plan.operations m = .ok ops) {part : Plan.Part}
    (hpart : part ∈ Plan.sourceParts m ops) :
    ((∃ e, Declarative.emit part = .error e) ↔ ¬ part.names.Nodup) ∧
      (∀ e, Declarative.emit part = .error e ↔
        ∃ name, Repeats name part.names ∧ e = .render (Source.RenderError.duplicateDeclaration name).message) ∧
      (∀ key, Declarative.emit part ≠ .error (.unresolvedReference key)) ∧
      ∀ key existing other, Declarative.emit part ≠
        .error (.render (Source.RenderError.conflictingSymbol key existing other).message) := by
  have hfails := fun e => emit_eq_error_iff_repeats h hpart (e := e)
  refine ⟨exists_emit_eq_error_iff h hpart, hfails, ?_, ?_⟩
  · intro key he
    obtain ⟨name, _, heq⟩ := (hfails _).1 he
    cases heq
  · intro key existing other he
    obtain ⟨name, _, heq⟩ := (hfails _).1 he
    exact duplicate_message_ne_conflicting name key existing other (EmitError.render.inj heq).symm

/-- The type of the response has the name of a type of the library. -/
def readPipeline : Service.Operation := { readThing with response := ⟨"Pipeline", []⟩ }

def pipelines : Service.Model where
  options := things.options
  sourcePath := "src"
  paths := ⟨[("/things/\x7bid\x7d", ⟨"thing", none, [], [readPipeline]⟩)], by simp⟩

def plannedPipelines : List Plan.Operation :=
  [Plan.plannedOperation "readThing" "/things/\x7bid\x7d" none readPipeline
    [(false, ⟨"id", "string", false, .path⟩)]]

theorem emit_failure_spec_pipelines : Plan.operations pipelines = .ok plannedPipelines ∧
    (∃ e, Declarative.emit (.clientClass (Plan.clientClass pipelines plannedPipelines)) = .error e) ∧
    Declarative.emit (.clientClass (Plan.clientClass pipelines plannedPipelines)) =
      .error (.render "`Pipeline` is declared more than once in the same file") := by
  have hplan : Plan.operations pipelines = .ok plannedPipelines := rfl
  have hnames : (Plan.Part.clientClass (Plan.clientClass pipelines plannedPipelines)).names =
      ["Pipeline", "ThingsClientOptionalParams", "ThingsContext", "createThings", "readThing", "ReadThingOptions"] ++
        "Pipeline" :: ["ThingsClient"] := by
    decide +kernel
  have hmessage : (Source.RenderError.duplicateDeclaration "Pipeline").message =
      "`Pipeline` is declared more than once in the same file" := by
    decide +kernel
  obtain ⟨hfails, hrepeats, _⟩ := emit_failure_spec hplan (List.mem_cons_of_mem _ List.mem_cons_self)
  refine ⟨hplan, hfails.2 ?_, ?_⟩
  · rw [hnames]
    decide
  · rw [← hmessage]
    exact (hrepeats _).2 ⟨"Pipeline", ⟨_, _, hnames, by decide, by decide⟩, rfl⟩

end ClientGen
