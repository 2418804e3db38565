import ClientGen.Proofs.Imports.Plan
import ClientGen.Proofs.Plan.Names
import ClientGen.Proofs.Text.Seams

/-!
# Import statements of planned files

No import statement has a star in it, whatever the types and names of a model are: what is imported is called after the
client, its operations and the words of type expressions, and comes from modules that are called after operations at
most.
-/

namespace ClientGen

open Text (seamless_starless)

namespace Imports

/-- A step without a star in its module and its name. -/
def Step.Starless (s : Step) : Prop := '*' ∉ s.module.toList ∧ '*' ∉ s.name.toList

instance : DecidablePred Step.Starless := fun _ => inferInstanceAs (Decidable (_ ∧ _))

theorem starless_of_mem_referencedTypes {type name : String} (h : name ∈ referencedTypes type) :
    '*' ∉ name.toList := by
  have hpiece := (Plan.mem_foldl_unless h).resolve_left List.not_mem_nil
  obtain ⟨piece, hcut, rfl⟩ := List.mem_map.1 (List.mem_of_mem_filter hpiece)
  intro hstar
  rw [String.toList_ofList] at hstar
  exact absurd (Text.of_mem_cut hcut hstar) (by decide)

theorem starless_modelSteps {module : String} (hmodule : '*' ∉ module.toList) (type : String) :
    ∀ s ∈ modelSteps module type, s.Starless := by
  intro s hs
  obtain ⟨name, hname, rfl⟩ := List.mem_map.1 hs
  exact ⟨hmodule, starless_of_mem_referencedTypes hname⟩

theorem starless_statement {module : String} {names : List String} (hmodule : '*' ∉ module.toList)
    (hnames : ∀ name ∈ names, '*' ∉ name.toList) : '*' ∉ (statement module names).toList := by
  have hjoined : '*' ∉ (Text.joined ", " names).toList := seamless_starless.joined (by decide) hnames
  simp [statement, hmodule, hjoined]

/-- The statements of a set that starless steps fill have no stars. -/
theorem starless_statements {steps : List Step} (h : ∀ s ∈ steps, s.Starless) :
    ∀ line ∈ (Imports.empty.takeAll steps).statements, '*' ∉ line.toList := by
  intro line hline
  obtain ⟨⟨module, names⟩, hentry, rfl⟩ := List.mem_map.1 hline
  refine starless_statement ?_ ?_
  · rcases exists_of_mem_entries_takeAll hentry with ⟨names', hempty⟩ | ⟨s, hs, rfl⟩
    · cases hempty
    · exact (h s hs).1
  · rw [List.forall_mem_map]
    rintro ⟨name, key⟩ hname
    rcases mem_symbols_takeAll (mem_symbols_iff.2 ⟨module, names, hentry, hname⟩) with hempty | ⟨s, hs, heq⟩
    · cases hempty
    · exact (Prod.mk.inj heq).1 ▸ (h s hs).2

end Imports

namespace Plan

open Imports (Step starless_modelSteps)

/-- A text of name characters has no star. -/
theorem starless_of_nameChars {s : String} (h : ∀ c ∈ s.toList, Text.isNameChar c) : '*' ∉ s.toList :=
  fun hstar => absurd (h '*' hstar) (by decide)

theorem starless_name {m : Service.Model} {ops : List Operation} (h : operations m = .ok ops) {op : Operation}
    (hop : op ∈ ops) : '*' ∉ op.name.toList :=
  starless_of_nameChars fun _ hc => isNameChar_of_mem_name h hop hc

/-- Names of a client without stars. -/
structure ClientNames.Starless (names : ClientNames) : Prop where
  base : '*' ∉ names.base.toList
  className : '*' ∉ names.className.toList
  contextType : '*' ∉ names.contextType.toList
  factoryName : '*' ∉ names.factoryName.toList
  optionalParamsType : '*' ∉ names.optionalParamsType.toList

theorem starless_ofName (client : String) : (ClientNames.ofName client).Starless := by
  have hbase : '*' ∉ (ClientNames.ofName client).base.toList :=
    starless_of_nameChars fun _ hc => isNameChar_of_mem_base hc
  refine ⟨hbase, ?_, ?_, ?_, ?_⟩
  · simp [className_ofName, hbase]
  · simp [contextType_ofName, hbase]
  · simp [factoryName_ofName, hbase]
  · simp [optionalParamsType_ofName, hbase]

theorem starless_optionsType {op : Operation} (h : op.Regular) : '*' ∉ op.optionsType.toList := by
  have hpascal : '*' ∉ (Text.pascal op.name).toList :=
    starless_of_nameChars fun _ hc => Text.isNameChar_of_mem_pascal hc
  simp [h.optionsType, optionsTypeOf, hpascal]

theorem starless_parameterSteps {module : String} (hmodule : '*' ∉ module.toList) (ps : List Parameter) :
    ∀ s ∈ parameterSteps module ps, s.Starless := by
  intro s hs
  obtain ⟨p, _, hp⟩ := List.mem_flatMap.1 hs
  exact starless_modelSteps hmodule p.type s hp

theorem starless_operationSteps {op : Operation} (h : op.Regular) : ∀ s ∈ operationSteps op, s.Starless := by
  have hcommon : ∀ s ∈ commonSteps, s.Starless := by decide
  have hkind : ∀ s ∈ kindSteps op, s.Starless := by
    unfold kindSteps
    cases op.kind <;> decide
  have hoptions : '*' ∉ FromOperation.options.toList := by decide
  simp only [operationSteps, List.forall_mem_append, List.forall_mem_singleton]
  exact ⟨⟨⟨⟨⟨hcommon, hkind⟩, starless_parameterSteps (by decide) _⟩, starless_modelSteps (by decide) _⟩,
    starless_modelSteps (by decide) _⟩, hoptions, starless_optionsType h⟩

section Shared

variable {ops : List Operation}

theorem starless_returnSteps : ∀ s ∈ returnSteps ops, s.Starless := by
  simp only [returnSteps, List.forall_mem_append]
  constructor
  · split <;> decide
  · split <;> decide

theorem starless_optionsSteps (h : ∀ op ∈ ops, op.Regular) : ∀ s ∈ optionsSteps ops, s.Starless := by
  have hoptions : '*' ∉ FromSource.options.toList := by decide
  rw [optionsSteps, List.forall_mem_map]
  exact fun op hop => ⟨hoptions, starless_optionsType (h op hop)⟩

theorem starless_signatureSteps : ∀ s ∈ signatureSteps ops, s.Starless := by
  intro s hs
  obtain ⟨op, _, hop⟩ := List.mem_flatMap.1 hs
  rcases List.mem_append.1 hop with h | h
  · exact starless_parameterSteps (by decide) _ s h
  · exact starless_modelSteps (by decide) _ s h

end Shared

theorem starless_definitionsSteps {ops : List Operation} (routes : List Route) (h : ∀ op ∈ ops, op.Regular) :
    ∀ s ∈ definitionsSteps routes ops, s.Starless := by
  have hroutes : ∀ s ∈ routes.flatMap routeSteps, s.Starless := by
    intro s hs
    obtain ⟨r, _, hr⟩ := List.mem_flatMap.1 hs
    rcases List.mem_append.1 hr with hr | hr
    · obtain ⟨p, _, hp⟩ := List.mem_flatMap.1 hr
      exact starless_modelSteps (by decide) _ s hp
    · obtain ⟨t, _, ht⟩ := List.mem_flatMap.1 hr
      exact starless_modelSteps (by decide) _ s ht
  simp only [definitionsSteps, List.forall_mem_append]
  exact ⟨⟨⟨⟨by decide, starless_returnSteps⟩, starless_optionsSteps h⟩, hroutes⟩, starless_signatureSteps⟩

theorem starless_classSteps {ops : List Operation} (client : String) (clientParameters : List Parameter)
    (h : ∀ op ∈ ops, op.Regular) (hnames : ∀ op ∈ ops, '*' ∉ op.name.toList) :
    ∀ s ∈ classSteps (ClientNames.ofName client) ops clientParameters, s.Starless := by
  have hindex : '*' ∉ FromSource.apiIndex.toList := by decide
  have hnamed := starless_ofName client
  have hclient : ∀ s ∈ clientSteps (ClientNames.ofName client), s.Starless := by
    simp only [clientSteps, List.forall_mem_cons]
    exact ⟨⟨hindex, hnamed.factoryName⟩, ⟨hindex, hnamed.contextType⟩, ⟨hindex, hnamed.optionalParamsType⟩, by simp⟩
  have hfunctions : ∀ s ∈ functionSteps ops, s.Starless := by
    rw [functionSteps, List.forall_mem_map]
    exact fun op hop => ⟨by simp [FromSource.operation, hnames op hop], hnames op hop⟩
  have hparameters : ∀ s ∈ clientParameters.flatMap fun p => Imports.modelSteps FromSource.models p.type,
      s.Starless := by
    intro s hs
    obtain ⟨p, _, hp⟩ := List.mem_flatMap.1 hs
    exact starless_modelSteps (by decide) _ s hp
  simp only [classSteps, List.forall_mem_append]
  exact ⟨⟨⟨⟨⟨⟨by decide, starless_returnSteps⟩, hclient⟩, hfunctions⟩, starless_optionsSteps h⟩,
    starless_signatureSteps⟩, hparameters⟩

end Plan

end ClientGen
