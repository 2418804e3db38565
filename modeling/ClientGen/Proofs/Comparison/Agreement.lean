import ClientGen.Proofs.Comparison.Legible
import ClientGen.Proofs.Comparison.Validation
import ClientGen.Proofs.Emission.Agreement

/-!
# Validation of the two ways of emitting

A validation of trees against templates compares the two styles of one outline, as long as the trees can be rendered.
It passes for legible models. For others it may not, since it knows nothing of quoted texts: a path that looks like the
beginning of a comment hides what follows it, up to the end of the next comment, and only one of the two styles has
such ends.
-/

namespace ClientGen

open Comparison (SameInterface)
open Plan (Operation Part)

variable {σ : Type}

/-! ## Runs -/

theorem Flags.enabledFor_all (enabled : Bool) (target : Target) : (Flags.all enabled).enabledFor target = enabled := by
  cases target <;> rfl

namespace Emission

variable {policy : RetryPolicy} {declarative baseline : PureEmitter} {part : Part} {file : GeneratedFile}

theorem choice_forced_true (h : 1 ≤ policy.fallbackThreshold) (hfile : declarative part = .ok file) :
    (forced policy declarative baseline true).choice .empty part = .ok ⟨file, part.target, .declarative, 1⟩ := by
  have htries : (forced policy declarative baseline true).Tries .empty part := ⟨Flags.enabledFor_all true _, h⟩
  rw [choice, if_pos htries]
  simp only [forced, hfile]

theorem choice_forced_false (hfile : baseline part = .ok file) :
    (forced policy declarative baseline false).choice .empty part = .ok ⟨file, part.target, .baseline, 0⟩ := by
  have hnot : ¬ (forced policy declarative baseline false).Tries .empty part := fun h =>
    absurd (h.1.symm.trans (Flags.enabledFor_all false _)) (by decide)
  rw [choice, if_neg hnot, fromBaseline]
  simp only [forced, hfile]

/-- A run in which every source file comes out with a property. -/
theorem exists_sources {b : Emission} {m : Service.Model} {ops : List Operation} (hops : Plan.operations m = .ok ops)
    {R : Part → Emitted → Prop}
    (h : ∀ part ∈ Plan.sourceParts m ops, ∃ e, b.choice .empty part = .ok e ∧ R part e) :
    ∃ files, b.sources m = .ok files ∧ List.Forall₂ R (Plan.sourceParts m ops) files := by
  rw [Emission.sources, hops]
  exact exists_mapM_eq_ok h

end Emission

section Sources

variable {m : Service.Model} {ops : List Operation}

/-- Files that have their outlines in one style are written one behind the other in that style. -/
theorem output_eq_write {style : Comment → String} {files : List Emitted}
    (h : List.Forall₂ (fun part e => (Outline.ofPart part).write style = e.file.content) (Plan.sourceParts m ops)
      files) :
    ValidationResult.output files = (Outline.ofSources m ops).write style := by
  have hcontents : (Plan.sourceParts m ops).map (fun part => (Outline.ofPart part).write style) =
      files.map fun e => e.file.content := by
    rw [← List.forall₂_eq_eq_eq, List.forall₂_map_left_iff, List.forall₂_map_right_iff]
    exact h
  rw [ValidationResult.output, ← hcontents, Outline.ofSources, Outline.write_stacked, List.map_map]
  rfl

variable (hops : Plan.operations m = .ok ops) {policy : RetryPolicy}
include hops

/-- A run without trees writes the outline of all files with line comments. -/
theorem exists_sources_baseline :
    ∃ files, (Emission.forced policy Declarative.emit Baseline.emit false).sources m = .ok files ∧
      ValidationResult.output files = (Outline.ofSources m ops).write Comment.slashed := by
  have hchoice : ∀ part ∈ Plan.sourceParts m ops, ∃ e,
      (Emission.forced policy Declarative.emit Baseline.emit false).choice .empty part = .ok e ∧
        (Outline.ofPart part).write Comment.slashed = e.file.content := fun part _ =>
    ⟨_, Emission.choice_forced_false (Outline.emit_baseline_eq part), rfl⟩
  obtain ⟨files, hfiles, hcontents⟩ := Emission.exists_sources hops hchoice
  exact ⟨files, hfiles, output_eq_write hcontents⟩

/-- A run with trees that can all be rendered falls back nowhere. Where bodies have names, it writes the outline of all
files with starred comments. -/
theorem exists_sources_declarative
    (hemits : ∀ part ∈ Plan.sourceParts m ops, ∃ file, Declarative.emit part = .ok file)
    (hthreshold : 1 ≤ policy.fallbackThreshold) :
    ∃ files, (Emission.forced policy Declarative.emit Baseline.emit true).sources m = .ok files ∧
      (∀ e ∈ files, e.via = .declarative) ∧
      (Plan.NamesBodies m → ValidationResult.output files = (Outline.ofSources m ops).write Comment.starred) := by
  have hchoice : ∀ part ∈ Plan.sourceParts m ops, ∃ e,
      (Emission.forced policy Declarative.emit Baseline.emit true).choice .empty part = .ok e ∧
        (e.via = .declarative ∧
          (Plan.NamesBodies m → (Outline.ofPart part).write Comment.starred = e.file.content)) := by
    intro part hpart
    obtain ⟨file, hfile⟩ := hemits part hpart
    refine ⟨_, Emission.choice_forced_true hthreshold hfile, rfl, fun hbodies => ?_⟩
    exact (content_eq_ofPart hops hbodies hpart hfile).2.symm
  obtain ⟨files, hfiles, hmade⟩ := Emission.exists_sources hops hchoice
  refine ⟨files, hfiles, fun e he => ?_, fun hbodies => output_eq_write (hmade.imp fun part e h => h.2 hbodies)⟩
  obtain ⟨part, _, hvia, _⟩ := exists_mem_of_forall₂ hmade he
  exact hvia

/-- A validation of two ways that both write a plan sets their outputs side by side. -/
theorem exists_validate_eq (hemits : ∀ part ∈ Plan.sourceParts m ops, ∃ file, Declarative.emit part = .ok file)
    (hthreshold : 1 ≤ policy.fallbackThreshold) (see : EmitCall → σ → σ) (name : String) (s : σ) :
    ∃ primary baseline, ((Validator.answering policy Declarative.emit Baseline.emit see).validate name m s).1 =
        ValidationResult.ofRuns name primary baseline ∧
      (∀ e ∈ primary, e.via = .declarative) ∧
      ValidationResult.output baseline = (Outline.ofSources m ops).write Comment.slashed ∧
      (Plan.NamesBodies m → ValidationResult.output primary = (Outline.ofSources m ops).write Comment.starred) := by
  obtain ⟨primary, hprimary, hvia, hstarred⟩ := exists_sources_declarative hops hemits hthreshold
  obtain ⟨baseline, hbaseline, hslashed⟩ := @exists_sources_baseline m ops hops policy
  refine ⟨primary, baseline, ?_, hvia, hslashed, hstarred⟩
  rw [Validator.validate_answering, hprimary, hbaseline]
  rfl

/-- What a validation says of a model that trees and templates can both write: nothing but how their outputs differ.
These are all files of the plan in the two styles, and the validation passes exactly if both have the same interface;
for a legible model they do. -/
theorem agreement_spec
    (hemits : ∀ part ∈ Plan.sourceParts m ops, ∃ file, Declarative.emit part = .ok file)
    (hthreshold : 1 ≤ policy.fallbackThreshold) (see : EmitCall → σ → σ) (name : String) (s : σ) :
    let r := ((Validator.answering policy Declarative.emit Baseline.emit see).validate name m s).1
    r.error = none ∧ r.differences = Comparison.differences r.primaryOutput r.baselineOutput ∧
      (r.passed = true ↔ SameInterface r.primaryOutput r.baselineOutput) ∧
      r.baselineOutput = (Outline.ofSources m ops).write Comment.slashed ∧
      (Plan.NamesBodies m → r.primaryOutput = (Outline.ofSources m ops).write Comment.starred ∧
        (Plan.Legible m ops → r.passed = true ∧ r.differences = [])) := by
  intro r
  obtain ⟨primary, baseline, hr, hvia, hslashed, hstarred⟩ := exists_validate_eq hops hemits hthreshold see name s
  change r = ValidationResult.ofRuns name primary baseline at hr
  have hdifferences : r.differences = Comparison.differences r.primaryOutput r.baselineOutput := by
    rw [hr, ValidationResult.ofRuns, ValidationResult.fallbacks_eq_nil_iff.2 hvia, List.nil_append]
  have hpassed : r.passed = true ↔ SameInterface r.primaryOutput r.baselineOutput := by
    rw [hr]
    exact ValidationResult.passed_ofRuns_iff.trans (and_iff_right hvia)
  have hbaseline : r.baselineOutput = (Outline.ofSources m ops).write Comment.slashed := by rw [hr, ← hslashed]; rfl
  refine ⟨by rw [hr]; rfl, hdifferences, hpassed, hbaseline, fun hbodies => ?_⟩
  have hprimary : r.primaryOutput = (Outline.ofSources m ops).write Comment.starred := by
    rw [hr, ← hstarred hbodies]
    rfl
  refine ⟨hprimary, fun hlegible => ?_⟩
  have hsame : SameInterface r.primaryOutput r.baselineOutput := by
    rw [hprimary, hbaseline]
    exact .of_normalize_eq (Outline.normalize_write_ofSources hops hlegible)
  exact ⟨hpassed.2 hsame, hdifferences.trans (Comparison.differences_eq_nil_iff.2 hsame)⟩

end Sources

/-- Trees against templates, with the default policy and no state. -/
def Validator.stock : Validator Unit := .answering .default Declarative.emit Baseline.emit fun _ s => s

theorem agreement_spec_things :
    let r := (Validator.stock.validate "things" things ()).1
    Plan.operations things = .ok plannedThings ∧ Plan.NamesBodies things ∧ Plan.Legible things plannedThings ∧
      r.error = none ∧ r.passed = true ∧ r.differences = [] := by
  have hbodies : Plan.NamesBodies things := by
    unfold Plan.NamesBodies
    decide
  have hlegible : Plan.Legible things plannedThings := .of_starless (by decide +kernel) (by decide +kernel)
  have hthreshold : 1 ≤ RetryPolicy.default.fallbackThreshold := by decide
  obtain ⟨herror, _, _, _, hnamed⟩ := agreement_spec operations_things
    (Declarative.exists_emit_of_all (by decide +kernel)) hthreshold (fun _ s => s) "things" ()
  obtain ⟨hpassed, hdifferences⟩ := (hnamed hbodies).2 hlegible
  exact ⟨operations_things, hbodies, hlegible, herror, hpassed, hdifferences⟩

/-! ## A path that hides code

The path `/files/*` has the beginning of a comment in it. In the client definitions it stands in a quoted text, and the
next end of a comment is the one above the client class. With line comments there is none.
-/

def clearFiles : Service.Operation where
  name := "clear"
  method := .delete
  description := none
  response := ⟨"void", []⟩
  parameters := []
  longRunning := none
  paging := none

def wildcard : Service.Model where
  options := { Service.Options.default with title := some "Files" }
  sourcePath := "src"
  paths := ⟨[("/files/*", ⟨"Files", none, [], [clearFiles]⟩)], by simp⟩

def plannedClear : Operation where
  name := "clear"
  method := .delete
  path := "/files/*"
  group := none
  description := none
  parameters := [.options "ClearOptions"]
  clientParameters := []
  responseType := "void"
  expectedStatuses := ["200"]
  optionsType := "ClearOptions"
  longRunning := none
  paging := none
  removesApiVersionPolicy := false

theorem operations_wildcard : Plan.operations wildcard = .ok [plannedClear] := by decide +kernel

theorem names_wildcard : Plan.ClientNames.ofName wildcard.clientName =
    ⟨"Files", "FilesClient", "FilesContext", "createFiles", "FilesClientOptionalParams"⟩ := by
  decide +kernel

def wildcardRoute : Plan.Route := ⟨"/files/*", "Files", [], [.delete], ["void"]⟩

theorem routes_wildcard : Plan.routes wildcard [plannedClear] = [wildcardRoute] := by decide +kernel

theorem groups_wildcard : Plan.groups [plannedClear] = [⟨"ClientOperations", none, [plannedClear]⟩] := by
  decide +kernel

theorem definitionsImports_wildcard : (Plan.definitionsImports [wildcardRoute] [plannedClear]).statements =
    ["import \x7b Client, StreamableMethod \x7d from \"@typespec/ts-http-runtime\";",
     "import \x7b ClearOptions \x7d from \"./api/options.js\";"] := by
  decide +kernel

theorem clientDefinitions_wildcard : Outline.ofClientDefinitions (Plan.clientDefinitions wildcard [plannedClear]) =
    Outline.lines
      ["import \x7b Client, StreamableMethod \x7d from \"@typespec/ts-http-runtime\";",
       "import \x7b ClearOptions \x7d from \"./api/options.js\";",
       "",
       "export interface Routes \x7b"] ++
    [.comment (.remark "  " "Resource for '/files/*' has methods for the following verbs: delete")] ++
    Outline.lines ["  (path: \"/files/*\"): StreamableMethod<void>;"] ++
    Outline.lines ["\x7d"] ++
    (Outline.lines ["", "export interface ClientOperations \x7b"] ++
     Outline.lines ["  clear(options?: ClearOptions): Promise<void>;"] ++
     Outline.lines ["\x7d"]) ++
    Outline.lines ["", "export type FilesContext = Client & \x7b path: Routes \x7d;"] := by
  rw [Outline.ofClientDefinitions, Plan.clientDefinitions]
  simp only
  rw [routes_wildcard, groups_wildcard, names_wildcard, definitionsImports_wildcard]
  rfl

theorem classImports_wildcard : (Plan.clientClass wildcard [plannedClear]).imports.statements =
    ["import \x7b Pipeline \x7d from \"@typespec/ts-http-runtime\";",
     "import \x7b FilesClientOptionalParams, FilesContext, createFiles \x7d from \"./api/index.js\";",
     "import \x7b clear \x7d from \"./api/clear.js\";",
     "import \x7b ClearOptions \x7d from \"./api/options.js\";"] := by
  decide +kernel

theorem clientClass_wildcard : Outline.ofClientClass (Plan.clientClass wildcard [plannedClear]) =
    Outline.lines
      ["import \x7b Pipeline \x7d from \"@typespec/ts-http-runtime\";",
       "import \x7b FilesClientOptionalParams, FilesContext, createFiles \x7d from \"./api/index.js\";",
       "import \x7b clear \x7d from \"./api/clear.js\";",
       "import \x7b ClearOptions \x7d from \"./api/options.js\";",
       ""] ++
    [.comment (.remark "" "Client for the Files service.")] ++
    Outline.lines
      ["export class FilesClient \x7b",
       "  private _client: FilesContext;",
       "  public readonly pipeline: Pipeline;",
       "",
       "  constructor(endpointParam: string, options: FilesClientOptionalParams = \x7b\x7d) \x7b",
       "    this._client = createFiles(endpointParam, options);",
       "    this.pipeline = this._client.pipeline;",
       "  \x7d"] ++
    (Outline.lines [""] ++ [] ++ Outline.lines
      ["  clear(options: ClearOptions = \x7b requestOptions: \x7b\x7d \x7d): Promise<void> \x7b",
       "    return clear(this._client, options);",
       "  \x7d"]) ++
    Outline.lines ["\x7d"] := by
  have hnames : (Plan.clientClass wildcard [plannedClear]).names = _ := names_wildcard
  rw [Outline.ofClientClass, classImports_wildcard, Baseline.classRemark, Baseline.classHead,
    Baseline.constructorParameters, Baseline.constructorArguments, hnames]
  rfl

theorem operationImports_wildcard : (Plan.operationFile wildcard plannedClear).imports.statements =
    ["import \x7b Client, PathUncheckedResponse, StreamableMethod, createRestError, " ++
       "operationOptionsToRequestParameters \x7d from \"@typespec/ts-http-runtime\";",
     "import \x7b ClearOptions \x7d from \"./options.js\";"] := by
  decide +kernel

theorem operationFile_wildcard : Outline.ofOperationFile (Plan.operationFile wildcard plannedClear) =
    Outline.lines
      ["import \x7b Client, PathUncheckedResponse, StreamableMethod, createRestError, " ++
         "operationOptionsToRequestParameters \x7d from \"@typespec/ts-http-runtime\";",
       "import \x7b ClearOptions \x7d from \"./options.js\";",
       "",
       "export function _clearSend(context: Client, options: ClearOptions = \x7b requestOptions: \x7b\x7d \x7d)" ++
         ": StreamableMethod \x7b",
       "  return context.path(\"/files/*\").delete(\x7b",
       "    ...operationOptionsToRequestParameters(options),",
       "  \x7d);",
       "\x7d",
       "",
       "export async function _clearDeserialize(result: PathUncheckedResponse): Promise<void> \x7b",
       "  const expectedStatuses = [\"200\"];",
       "  if (!expectedStatuses.includes(result.status)) \x7b",
       "    throw createRestError(result);",
       "  \x7d",
       "",
       "  return result.body;",
       "\x7d",
       ""] ++
    [] ++
    Outline.lines
      ["export async function clear(context: Client, options: ClearOptions = \x7b requestOptions: \x7b\x7d \x7d)" ++
         ": Promise<void> \x7b",
       "  const result = await _clearSend(context, options);",
       "  return _clearDeserialize(result);",
       "\x7d"] := by
  rw [Outline.ofOperationFile, operationImports_wildcard]
  rfl

theorem starred_route_wildcard :
    Comment.starred (.remark "  " "Resource for '/files/*' has methods for the following verbs: delete") =
      "  /** Resource for '/files/*' has methods for the following verbs: delete */\n" := by
  decide +kernel

theorem starred_class_wildcard :
    Comment.starred (.remark "" "Client for the Files service.") = "/** Client for the Files service. */\n" := by
  decide +kernel

theorem length_exportedNames (source : String) :
    (Comparison.exportedNames source).length =
      (Comparison.findAll Comparison.export? 0 none (Comparison.collapse
        (Comparison.withoutLineComments .code (Comparison.withoutBlocks 0 source.toList)))).length := by
  rw [Comparison.exportedNames, List.length_map, Comparison.normalize, String.toList_ofList]

/-- With starred comments, two of the seven exports are hidden. -/
theorem exports_wildcard :
    (Comparison.exportedNames ((Outline.ofSources wildcard [plannedClear]).write Comment.starred)).length = 5 ∧
      (Comparison.exportedNames ((Outline.ofSources wildcard [plannedClear]).write Comment.slashed)).length = 7 := by
  have houtline : Outline.ofSources wildcard [plannedClear] =
      Outline.ofClientDefinitions (Plan.clientDefinitions wildcard [plannedClear]) ++ Outline.lines [""] ++
        (Outline.ofClientClass (Plan.clientClass wildcard [plannedClear]) ++ Outline.lines [""] ++
          Outline.ofOperationFile (Plan.operationFile wildcard plannedClear)) := rfl
  rw [houtline, clientDefinitions_wildcard, clientClass_wildcard, operationFile_wildcard, length_exportedNames,
    length_exportedNames]
  simp only [Outline.write_append, Outline.write_lines, Outline.write_cons, Outline.write_nil, Piece.text,
    starred_route_wildcard, starred_class_wildcard, Comment.slashed, Comment.lines, Comment.margin, List.map_cons,
    List.map_nil, Text.unlines_cons, Text.unlines_nil, String.toList_append]
  -- the characters of every literal, so that nothing is decoded when both texts are searched
  repeat rw [String.toList_ofList]
  decide +kernel

theorem disagreement_wildcard :
    let r := (Validator.stock.validate "wildcard" wildcard ()).1
    Plan.operations wildcard = .ok [plannedClear] ∧ Plan.NamesBodies wildcard ∧
      (∀ part ∈ Plan.sourceParts wildcard [plannedClear], ∃ file, Declarative.emit part = .ok file) ∧
      1 ≤ RetryPolicy.default.fallbackThreshold ∧ r.error = none ∧ r.passed = false := by
  intro r
  have hbodies : Plan.NamesBodies wildcard := by
    unfold Plan.NamesBodies
    decide
  have hemits : ∀ part ∈ Plan.sourceParts wildcard [plannedClear], ∃ file, Declarative.emit part = .ok file :=
    Declarative.exists_emit_of_all (by decide +kernel)
  have hthreshold : 1 ≤ RetryPolicy.default.fallbackThreshold := by decide
  obtain ⟨primary, baseline, hr, hvia, hslashed, hstarred⟩ :=
    exists_validate_eq operations_wildcard hemits hthreshold (fun _ s => s) "wildcard" ()
  change r = ValidationResult.ofRuns "wildcard" primary baseline at hr
  refine ⟨operations_wildcard, hbodies, hemits, hthreshold, by rw [hr]; rfl, ?_⟩
  rw [hr, Bool.eq_false_iff, Ne, ValidationResult.passed_ofRuns_iff, hslashed, hstarred hbodies]
  rintro ⟨_, hsame⟩
  have hcount := hsame.count
  rw [exports_wildcard.1, exports_wildcard.2] at hcount
  exact absurd hcount (by decide)

end ClientGen
