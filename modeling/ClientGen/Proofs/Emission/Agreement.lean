import ClientGen.Declarative.Emitter
import ClientGen.Proofs.Declarative.ClientClass
import ClientGen.Proofs.Declarative.ClientDefinitions
import ClientGen.Proofs.Declarative.OperationFile
import ClientGen.Proofs.Plan.Operation

/-!
# Agreement of the two ways of emitting

Every reference in the tree of a planned file resolves: the tree renders as soon as its symbols are distinct, and its
text is the outline of the file.

Whatever the trees give for a file of source code, the templates give the same outline: the same code, and the same
comments at the same places. A file without comments is the same in both, byte for byte.
-/

/-! ## The trees of a planned model render -/

namespace ClientGen

variable {m : Service.Model} {ops : List Plan.Operation}

theorem entries_operationImports_ne_nil (op : Plan.Operation) : (Plan.operationImports op).entries ≠ [] := by
  rw [Plan.operationImports_eq]
  exact Imports.entries_takeAll_ne_nil _ (by simp [Plan.operationSteps])

theorem render_plannedOperationFile (h : Plan.operations m = .ok ops) {op : Plan.Operation} (hop : op ∈ ops)
    (hs : Source.DistinctSymbols (Declarative.operationFile (Plan.operationFile m op)).symbols) :
    Source.render (Declarative.operationFile (Plan.operationFile m op)) = .ok ((Outline.ofOperationFileWith
      (Declarative.bodyTexts op) (Plan.operationFile m op)).write Comment.starred) :=
  Declarative.render_operationFile hs (entries_operationImports_ne_nil op)
    (Plan.parameterFree_operationImports op) (Plan.regular_of_mem_operations h hop)

theorem render_plannedClientClass (h : Plan.operations m = .ok ops)
    (hs : Source.DistinctSymbols (Declarative.clientClass (Plan.clientClass m ops)).symbols) :
    Source.render (Declarative.clientClass (Plan.clientClass m ops)) =
      .ok ((Outline.ofClientClass (Plan.clientClass m ops)).write Comment.starred) := by
  have hne : (Plan.clientClass m ops).imports.entries ≠ [] := by
    change (Plan.classImports _ ops _).entries ≠ []
    rw [Plan.classImports_eq]
    exact Imports.entries_takeAll_ne_nil _ (by simp [Plan.classSteps])
  have hoptions : ∀ op ∈ ops, op.optionsType = Plan.optionsTypeOf op.name := fun op hop =>
    (Plan.regular_of_mem_operations h hop).optionsType
  exact Declarative.render_clientClass hs hne (Plan.parameterFree_classImports _ _ _)
    fun op hop => Plan.functionKey_mem_classImports hoptions hop

theorem render_plannedClientDefinitions
    (hs : Source.DistinctSymbols (Declarative.clientDefinitions (Plan.clientDefinitions m ops)).symbols) :
    Source.render (Declarative.clientDefinitions (Plan.clientDefinitions m ops)) =
      .ok ((Outline.ofClientDefinitions (Plan.clientDefinitions m ops)).write Comment.starred) := by
  have hne : (Plan.clientDefinitions m ops).imports.entries ≠ [] := by
    change (Plan.definitionsImports _ ops).entries ≠ []
    rw [Plan.definitionsImports_eq]
    exact Imports.entries_takeAll_ne_nil _ (by simp [Plan.definitionsSteps])
  exact Declarative.render_clientDefinitions hs hne

/-! ## Agreement of the two ways of emitting -/

open Plan (Part)

variable {m : Service.Model} {ops : List Plan.Operation}

theorem Declarative.rendered_eq_ok_iff {path : String} {f : Source.File} {file : GeneratedFile} :
    rendered path f = .ok file ↔ file.path = path ∧ Source.render f = .ok file.content := by
  obtain ⟨path', content⟩ := file
  unfold rendered
  cases Source.render f with
  | error e => simp
  | ok text => simp [eq_comm]

theorem Declarative.exists_emit_of_all {parts : List Part}
    (h : (parts.all fun part => (Declarative.emit part).toOption.isSome) = true) :
    ∀ part ∈ parts, ∃ file, Declarative.emit part = .ok file := by
  intro part hpart
  have hemits := List.all_eq_true.1 h part hpart
  cases hfile : Declarative.emit part with
  | error e => simp [hfile, Except.toOption] at hemits
  | ok file => exact ⟨file, rfl⟩

/-- What the trees give for a file of source code is its outline with starred comments, up to the line for the body of a
request. -/
theorem content_eq_of_emit_declarative (h : Plan.operations m = .ok ops) {part : Part}
    (hpart : part ∈ Plan.sourceParts m ops) {file : GeneratedFile} (hfile : Declarative.emit part = .ok file) :
    file.path = part.path ∧
      file.content = (Outline.ofPartWith Declarative.bodyTexts part).write Comment.starred := by
  rcases Plan.mem_sourceParts_iff.1 hpart with rfl | rfl | ⟨op, hop, rfl⟩
  all_goals
    rw [Declarative.emit, Declarative.rendered_eq_ok_iff] at hfile
    obtain ⟨hpath, hr⟩ := hfile
    have hs := Source.distinctSymbols_of_render hr
  · exact ⟨hpath, Except.ok.inj (hr.symm.trans (render_plannedClientDefinitions hs))⟩
  · exact ⟨hpath, Except.ok.inj (hr.symm.trans (render_plannedClientClass h hs))⟩
  · exact ⟨hpath, Except.ok.inj (hr.symm.trans (render_plannedOperationFile h hop hs))⟩

/-- The line is the same in both ways of emitting if parameters for the body have names. -/
theorem ofPartWith_bodyTexts (h : Plan.operations m = .ok ops) (hm : Plan.NamesBodies m) {part : Part}
    (hpart : part ∈ Plan.sourceParts m ops) : Outline.ofPartWith Declarative.bodyTexts part = Outline.ofPart part := by
  rw [Outline.ofPart_eq]
  rcases Plan.mem_sourceParts_iff.1 hpart with rfl | rfl | ⟨op, hop, rfl⟩
  · rfl
  · rfl
  · have hline : Declarative.bodyTexts op = Baseline.bodyLine op :=
      Declarative.bodyTexts_eq fun p hp => Plan.name_ne_of_mem_parametersAt_body hm h hop hp
    exact congrArg (Outline.ofOperationFileWith · _) hline

theorem content_eq_ofPart (h : Plan.operations m = .ok ops) (hm : Plan.NamesBodies m) {part : Part}
    (hpart : part ∈ Plan.sourceParts m ops) {file : GeneratedFile} (hfile : Declarative.emit part = .ok file) :
    file.path = part.path ∧ file.content = (Outline.ofPart part).write Comment.starred := by
  rw [← ofPartWith_bodyTexts h hm hpart]
  exact content_eq_of_emit_declarative h hpart hfile

/-- Where a tree of a planned model can be rendered, both ways of emitting give the same outline under the same path:
one with starred comments, one with line comments. The comments are the texts documented in the part, and the file of
an operation without a description is the same in both. -/
theorem emit_same_outline (h : Plan.operations m = .ok ops) (hm : Plan.NamesBodies m) {part : Part}
    (hpart : part ∈ Plan.sourceParts m ops) {file : GeneratedFile} (hfile : Declarative.emit part = .ok file) :
    Baseline.emit part = .ok ⟨file.path, (Outline.ofPart part).write Comment.slashed⟩ ∧
      file.content = (Outline.ofPart part).write Comment.starred ∧
      (Outline.ofPart part).docTexts = Outline.textsOf part ∧
      ∀ f, part = .operationFile f → f.operation.description = none → Baseline.emit part = .ok file := by
  obtain ⟨hpath, hcontent⟩ := content_eq_ofPart h hm hpart hfile
  have hbaseline : Baseline.emit part = .ok ⟨file.path, (Outline.ofPart part).write Comment.slashed⟩ := by
    rw [Outline.emit_baseline_eq, hpath]
  refine ⟨hbaseline, hcontent, Outline.docTexts_ofPart part, ?_⟩
  rintro f rfl hnone
  have hbare : (Outline.ofPart (.operationFile f)).docTexts = [] := by
    rw [Outline.docTexts_ofPart, Outline.textsOf, hnone]
    rfl
  have herased : ∀ style,
      (Outline.ofPart (.operationFile f)).write style = (Outline.ofPart (.operationFile f)).erased :=
    fun style => Outline.write_eq_erased_of_docTexts_eq_nil hbare
  rw [hbaseline, herased Comment.slashed, ← herased Comment.starred, ← hcontent]

theorem emit_same_outline_things : Plan.operations things = .ok plannedThings ∧ Plan.NamesBodies things ∧
    ∀ part ∈ Plan.sourceParts things plannedThings, ∃ file, Declarative.emit part = .ok file ∧
      Baseline.emit part = .ok ⟨file.path, (Outline.ofPart part).write Comment.slashed⟩ ∧
      file.content = (Outline.ofPart part).write Comment.starred := by
  have hbodies : Plan.NamesBodies things := by
    unfold Plan.NamesBodies
    decide
  refine ⟨operations_things, hbodies, fun part hpart => ?_⟩
  obtain ⟨file, hfile⟩ := Declarative.exists_emit_of_all (by decide +kernel) part hpart
  obtain ⟨hbaseline, hcontent, _⟩ := emit_same_outline operations_things hbodies hpart hfile
  exact ⟨file, hfile, hbaseline, hcontent⟩

end ClientGen
