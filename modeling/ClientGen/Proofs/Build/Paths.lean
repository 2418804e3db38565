import ClientGen.Build.Fault
import ClientGen.Build.Package
import ClientGen.Proofs.Dict
import ClientGen.Proofs.Emission.Agreement
import ClientGen.Proofs.Plan.Names
import ClientGen.Proofs.Text.Search

/-!
# Paths of a package

The parts of a plan have paths of their own, whatever the model calls things, and a builder puts every file at the path
of its part. So the contents of a package are its files, none written over another.
-/

namespace ClientGen

open Plan (Part)

variable {σ : Type}

/-! ## Paths of a plan -/

namespace Plan

variable {m : Service.Model} {ops : List Operation}

/-- The path of a file of source code within the folder of the sources. -/
def localPaths (m : Service.Model) (ops : List Operation) : List String :=
  "/clientDefinitions.ts" :: ("/" ++ (ClientNames.ofName m.clientName).className ++ ".ts") ::
    ops.map fun op => "/api/" ++ op.name ++ ".ts"

theorem map_path_parts :
    (parts m ops).map Part.path = "package.json" :: (localPaths m ops).map (m.sourcePath ++ ·) := by
  simp [parts, sourceParts, operationParts, Part.path, manifest, clientDefinitions, clientClass, operationFile,
    localPaths, String.append_assoc]

theorem definitions_ne_class (base : String) : "/clientDefinitions.ts" ≠ "/" ++ (base ++ "Client") ++ ".ts" := by
  intro h
  have hbase : "/clientDefinition".toList ++ "s.ts".toList = ("/" ++ base ++ "Clien").toList ++ "t.ts".toList := by
    simpa [← String.toList_inj] using h
  have hends := (List.append_inj' hbase rfl).2
  exact absurd hends (by decide)

theorem definitions_ne_operation (name : String) : "/clientDefinitions.ts" ≠ "/api/" ++ name ++ ".ts" := by
  intro h
  simp [← String.toList_inj] at h

/-- A class never stands in the folder of the operations, for no slash is in its name. -/
theorem class_ne_operation {base : String} (hbase : ∀ c ∈ base.toList, Text.isNameChar c) (name : String) :
    "/" ++ (base ++ "Client") ++ ".ts" ≠ "/api/" ++ name ++ ".ts" := by
  intro h
  have hlists : base.toList ++ "Client.ts".toList = "api/".toList ++ (name ++ ".ts").toList := by
    simpa [← String.toList_inj] using h
  have hslash : '/' ∈ base.toList ++ "Client.ts".toList := by
    rw [hlists]
    simp
  rcases List.mem_append.1 hslash with hslash | hslash
  · exact absurd (hbase _ hslash) (by decide)
  · exact absurd hslash (by decide)

theorem nodup_localPaths (h : operations m = .ok ops) : (localPaths m ops).Nodup := by
  have hoperations : (ops.map fun op => "/api/" ++ op.name ++ ".ts").Nodup := by
    have hinjective : Function.Injective fun name : String => "/api/" ++ name ++ ".ts" := by
      intro name name' heq
      simpa [← String.toList_inj] using heq
    simpa [Function.comp_def] using ((operations_eq_ok_iff.1 h).2).map hinjective
  have hclass : ∀ op ∈ ops, "/api/" ++ op.name ++ ".ts" ≠
      "/" ++ ((ClientNames.ofName m.clientName).base ++ "Client") ++ ".ts" := fun op _ heq =>
    class_ne_operation (fun c hc => isNameChar_of_mem_base hc) op.name heq.symm
  rw [localPaths, className_ofName, List.nodup_cons, List.nodup_cons, List.mem_cons, not_or]
  refine ⟨⟨definitions_ne_class _, ?_⟩, ?_, hoperations⟩
  · rintro hmem
    obtain ⟨op, _, heq⟩ := List.mem_map.1 hmem
    exact definitions_ne_operation op.name heq.symm
  · rintro hmem
    obtain ⟨op, hop, heq⟩ := List.mem_map.1 hmem
    exact hclass op hop heq

/-- The manifest is no source file. -/
theorem manifest_ne_of_mem_localPaths {path : String} (h : path ∈ localPaths m ops) :
    m.sourcePath ++ path ≠ "package.json" := by
  have hending : ∃ p, path = p ++ ".ts" := by
    simp only [localPaths, List.mem_cons, List.mem_map] at h
    rcases h with rfl | rfl | ⟨op, _, rfl⟩
    · exact ⟨"/clientDefinitions", rfl⟩
    · exact ⟨_, rfl⟩
    · exact ⟨_, rfl⟩
  obtain ⟨p, rfl⟩ := hending
  intro heq
  have hlast := congrArg (fun s : String => s.toList.getLast?) heq
  simp at hlast

/-- No two parts of a plan have the same path. -/
theorem nodup_path_parts (h : operations m = .ok ops) : ((parts m ops).map Part.path).Nodup := by
  have hinjective : Function.Injective fun path : String => m.sourcePath ++ path := by
    intro path path' heq
    simpa [← String.toList_inj] using heq
  rw [map_path_parts, List.nodup_cons]
  refine ⟨?_, (nodup_localPaths h).map hinjective⟩
  intro hmem
  obtain ⟨path, hpath, heq⟩ := List.mem_map.1 hmem
  exact manifest_ne_of_mem_localPaths hpath heq

theorem length_parts (h : operations m = .ok ops) : (parts m ops).length = 3 + m.operationCount := by
  have hcount := (operations_eq_ok_iff.1 h).1.length_eq
  simp only [parts, sourceParts, operationParts, List.length_cons, List.length_map, Service.Model.operationCount]
  omega

end Plan

/-! ## What is built is built at the path of its part -/

/-- An emitter puts every part at the path that it is planned at. -/
def Emitter.KeepsPaths (e : Emitter σ) : Prop :=
  ∀ part s file s', e part s = (.ok file, s') → file.path = part.path

theorem Declarative.path_of_emit {part : Part} {file : GeneratedFile} (h : Declarative.emit part = .ok file) :
    file.path = part.path := by
  cases part with
  | packageJson m =>
    cases h
    rfl
  | clientDefinitions d => exact (Declarative.rendered_eq_ok_iff.1 h).1
  | clientClass c => exact (Declarative.rendered_eq_ok_iff.1 h).1
  | operationFile f => exact (Declarative.rendered_eq_ok_iff.1 h).1

theorem Baseline.path_of_emit {part : Part} {file : GeneratedFile} (h : Baseline.emit part = .ok file) :
    file.path = part.path := by
  cases part <;> cases h <;> rfl

theorem keepsPaths_lift {e : PureEmitter} (h : ∀ {part file}, e part = .ok file → file.path = part.path) :
    (e.lift : Emitter σ).KeepsPaths := by
  intro part s file s' hfile
  exact h (Prod.ext_iff.1 hfile).1

/-- A fault changes what is emitted, and not where. -/
theorem keepsPaths_withFault {e : PureEmitter} (h : ∀ {part file}, e part = .ok file → file.path = part.path)
    (fault : Option Fault) : (e.withFault fault).KeepsPaths := by
  cases fault with
  | none => exact keepsPaths_lift h
  | some f =>
    have hchanged : ∀ {part file}, (e part).map (f.change part) = .ok file → file.path = part.path := by
      intro part file hfile
      obtain ⟨file', hfile', rfl⟩ := map_eq_ok_iff.1 hfile
      rw [← h hfile']
      cases part <;> rfl
    intro part calls file calls' hfile
    simp only [PureEmitter.withFault, Fault.inject] at hfile
    split at hfile
    · split at hfile
      · simp at hfile
      · exact hchanged (Prod.ext_iff.1 hfile).1
    · exact hchanged (Prod.ext_iff.1 hfile).1

/-! What holds of everything that the two ways make holds of what a run makes. -/

section Run

variable {α : Type} {primary baseline : Attempt σ α} {P : α → Prop}

theorem of_retry (hprimary : ∀ s a s', primary s = (.ok a, s') → P a) {n count k : Nat} {s s' : σ} {a : α}
    (h : retry primary n count s = (.ok (a, k), s')) : P a := by
  fun_induction retry primary n count s with
  | case1 count s b s₁ hb =>
    cases h
    exact hprimary _ _ _ hb
  | case2 => cases h
  | case3 n count s b s₁ hb =>
    cases h
    exact hprimary _ _ _ hb
  | case4 n count s e s₁ _ ih => exact ih h

variable {context : String} {c c' : Counters} {s s' : σ} {o : Outcome α}
  (hprimary : ∀ s a s', primary s = (.ok a, s') → P a) (hbaseline : ∀ s a s', baseline s = (.ok a, s') → P a)
include hbaseline

theorem of_withoutPrimary (h : Recovery.withoutPrimary context baseline c s = (.ok o, c', s')) : P o.value := by
  unfold Recovery.withoutPrimary at h
  rcases hb : baseline s with ⟨_ | a, s₁⟩
  · simp [hb] at h
  · simp only [hb, Prod.mk.injEq, Except.ok.injEq] at h
    obtain ⟨rfl, _⟩ := h
    exact hbaseline _ _ _ hb

theorem of_fallBack {attempts : Nat} {failure : Option FailureReport}
    (h : Recovery.fallBack context attempts failure baseline c s = (.ok o, c', s')) : P o.value := by
  unfold Recovery.fallBack at h
  rcases hb : baseline s with ⟨_ | a, s₁⟩
  · simp [hb] at h
  · simp only [hb, Prod.mk.injEq, Except.ok.injEq] at h
    obtain ⟨rfl, _⟩ := h
    exact hbaseline _ _ _ hb

include hprimary

theorem of_run {policy : RetryPolicy} {enabled : Bool}
    (h : Recovery.run policy context enabled primary baseline c s = (.ok o, c', s')) : P o.value := by
  unfold Recovery.run Recovery.withPrimary at h
  split at h
  · exact of_withoutPrimary hbaseline h
  split at h
  · exact of_fallBack hbaseline h
  · rcases hp : retry primary (policy.attempts - 1) 1 s with ⟨e | ⟨a, k⟩, s₁⟩
    · rw [hp] at h
      exact of_fallBack hbaseline h
    · rw [hp] at h
      simp only [Prod.mk.injEq, Except.ok.injEq] at h
      obtain ⟨rfl, _⟩ := h
      exact of_retry hprimary hp

end Run

namespace Builder

variable {b : Builder σ} (hd : b.declarative.KeepsPaths) (hb : b.baseline.KeepsPaths)
include hd hb

theorem path_of_build {part : Part} {c c' : Counters} {s s' : σ} {e : Emitted}
    (h : b.build part c s = (.ok e, c', s')) : e.file.path = part.path := by
  unfold build at h
  rcases hrun : Recovery.run b.policy part.context (b.flags.enabledFor part.target) (b.declarative part)
    (b.baseline part) c s with ⟨_ | o, c₁, s₁⟩
  · simp [hrun, Except.map] at h
  · simp only [hrun, Except.map, Prod.mk.injEq, Except.ok.injEq] at h
    obtain ⟨rfl, _⟩ := h
    exact of_run (P := fun file => file.path = part.path) (hd part) (hb part) hrun

theorem map_path_of_buildAll {parts : List Part} {c c' : Counters} {s s' : σ} {files : List Emitted}
    (h : b.buildAll parts c s = (.ok files, c', s')) :
    files.map (fun e => e.file.path) = parts.map Part.path := by
  induction parts generalizing c c' s s' files with
  | nil =>
    cases h
    rfl
  | cons part rest ih =>
    unfold buildAll at h
    rcases hpart : b.build part c s with ⟨_ | e, c₁, s₁⟩
    · simp [hpart] at h
    · rcases hrest : b.buildAll rest c₁ s₁ with ⟨_ | others, c₂, s₂⟩
      · simp [hpart, hrest, Except.map] at h
      · simp only [hpart, hrest, Except.map, Prod.mk.injEq, Except.ok.injEq] at h
        obtain ⟨rfl, _⟩ := h
        rw [List.map_cons, List.map_cons, path_of_build hd hb hpart, ih hrest]

/-- The files of a complete package lie at the paths of the plan, in its order. -/
theorem map_path_of_complete {p p' : Progress σ} {package : Package} (h : b.complete p = (.ok package, p')) :
    ∃ ops, Plan.operations b.model = .ok ops ∧
      package.files.map (fun e => e.file.path) = (Plan.parts b.model ops).map Part.path := by
  unfold complete at h
  cases hops : Plan.operations b.model with
  | error fault => simp [hops] at h
  | ok ops =>
    rw [hops] at h
    rcases hfiles : b.buildAll (Plan.parts b.model ops) p.counters p.emitters with ⟨_ | files, c, s⟩
    · simp [advance, register, hfiles, Except.map] at h
    · simp only [advance, register, hfiles, Except.map, Prod.mk.injEq, Except.ok.injEq] at h
      obtain ⟨rfl, _⟩ := h
      exact ⟨ops, rfl, map_path_of_buildAll hd hb hfiles⟩

end Builder

/-! ## A baseline that never fails -/

/-- An emitter has an answer for every part, whatever was called before. -/
def Emitter.Answers (e : Emitter σ) : Prop := ∀ part s, ∃ file s', e part s = (.ok file, s')

theorem answers_baseline : (Baseline.emit.lift : Emitter σ).Answers := by
  intro part s
  cases part <;> exact ⟨_, _, rfl⟩

/-- A run that can fall back comes to something. -/
theorem Recovery.exists_run {α : Type} {baseline : Attempt σ α} (hb : ∀ s, ∃ a s', baseline s = (.ok a, s'))
    (policy : RetryPolicy) (context : String) (enabled : Bool) (primary : Attempt σ α) (c : Counters) (s : σ) :
    ∃ o c' s', run policy context enabled primary baseline c s = (.ok o, c', s') := by
  have hfallBack : ∀ attempts failure c s, ∃ o c' s',
      fallBack context attempts failure baseline c s = (.ok o, c', s') := by
    intro attempts failure c s
    obtain ⟨a, s', ha⟩ := hb s
    simp [fallBack, ha]
  unfold run
  split
  · obtain ⟨a, s', ha⟩ := hb s
    simp [withoutPrimary, ha]
  split
  · exact hfallBack 0 none c s
  · unfold withPrimary
    rcases retry primary (policy.attempts - 1) 1 s with ⟨_ | ⟨a, k⟩, s₁⟩
    · exact hfallBack _ _ _ _
    · exact ⟨_, _, _, rfl⟩

namespace Builder

variable {b : Builder σ} (hb : b.baseline.Answers)
include hb

theorem exists_buildAll (parts : List Part) (c : Counters) (s : σ) :
    ∃ files c' s', b.buildAll parts c s = (.ok files, c', s') := by
  induction parts generalizing c s with
  | nil => exact ⟨_, _, _, rfl⟩
  | cons part rest ih =>
    obtain ⟨o, c₁, s₁, hrun⟩ := Recovery.exists_run (hb part) b.policy part.context (b.flags.enabledFor part.target)
      (b.declarative part) c s
    obtain ⟨files, c₂, s₂, hrest⟩ := ih c₁ s₁
    simp [buildAll, build, hrun, hrest, Except.map]

/-- With a baseline that never fails every model that can be planned is built, whatever the declarative way does. -/
theorem exists_complete {ops : List Plan.Operation} (h : Plan.operations b.model = .ok ops) (p : Progress σ) :
    ∃ package p', b.complete p = (.ok package, p') := by
  obtain ⟨files, c, s, hfiles⟩ := exists_buildAll hb (Plan.parts b.model ops) p.counters p.emitters
  simp [complete, h, advance, register, hfiles, Except.map]

end Builder

/-! ## Contents -/

theorem Package.entries_contents {package : Package} (h : (package.files.map fun e => e.file.path).Nodup) :
    package.contents.entries = package.files.map fun e => (e.file.path, e.file.content) := by
  refine Dict.entries_ofList ?_
  rwa [List.map_map]

/-- Both ways of emitting keep to the paths of the plan. With any two that do, a package that is complete has a file
for the manifest, the definitions, the class and each operation, in this order, at paths that all differ: its contents
list every file, and each path holds the text of its own file. -/
theorem contents_of_complete :
    (Declarative.emit.lift : Emitter σ).KeepsPaths ∧ (Baseline.emit.lift : Emitter σ).KeepsPaths ∧
    ∀ (b : Builder σ) (p p' : Progress σ) (package : Package), b.declarative.KeepsPaths → b.baseline.KeepsPaths →
      b.complete p = (.ok package, p') →
      (∃ ops, Plan.operations b.model = .ok ops ∧
        package.files.map (fun e => e.file.path) = (Plan.parts b.model ops).map Part.path) ∧
      (package.files.map fun e => e.file.path).Nodup ∧
      package.contents.entries = package.files.map (fun e => (e.file.path, e.file.content)) ∧
      package.contents.size = 3 + b.model.operationCount ∧
      ∀ e ∈ package.files, package.contents.get? e.file.path = some e.file.content := by
  refine ⟨keepsPaths_lift Declarative.path_of_emit, keepsPaths_lift Baseline.path_of_emit,
    fun b p p' package hd hb h => ?_⟩
  obtain ⟨ops, hops, hpaths⟩ := Builder.map_path_of_complete hd hb h
  have hnodup : (package.files.map fun e => e.file.path).Nodup := hpaths ▸ Plan.nodup_path_parts hops
  have hentries := Package.entries_contents hnodup
  have hlength : package.files.length = (Plan.parts b.model ops).length := by
    simpa using congrArg List.length hpaths
  refine ⟨⟨ops, hops, hpaths⟩, hnodup, hentries, ?_, fun e he => ?_⟩
  · rw [Dict.size, hentries, List.length_map, hlength, Plan.length_parts hops]
  · refine Dict.find?_eq_some_of_mem package.contents.nodup ?_
    rw [hentries]
    exact List.mem_map_of_mem he

/-- A declarative way that always works, and one that is down for the first three calls: after two attempts at the
manifest and one at the definitions it works again. -/
theorem contents_of_complete_things :
    let paths := ["package.json", "src/clientDefinitions.ts", "src/ThingsClient.ts", "src/api/readThing.ts"]
    (let b : Builder Unit := ⟨things, .all true, .default, Declarative.emit.lift, Baseline.emit.lift⟩
     ∃ package p', b.complete ⟨.empty, .empty, ()⟩ = (.ok package, p') ∧ package.contents.size = 4 ∧
       package.contents.keys = paths) ∧
    let fault : Fault := ⟨3, none, Fault.defaultError, ""⟩
    let b : Builder Nat := ⟨things, .all true, ⟨2, 5, 0⟩, Declarative.emit.withFault fault, Baseline.emit.lift⟩
    ∃ package p', b.complete ⟨.empty, .empty, 0⟩ = (.ok package, p') ∧ package.contents.size = 4 ∧
      package.contents.keys = paths ∧ package.files.map (fun e => (e.via, e.attempts)) =
        [(.baseline, 2), (.declarative, 2), (.declarative, 1), (.declarative, 1)] := by
  intro paths
  have hcontents : ∀ {σ : Type} (b : Builder σ) (s : σ), b.model = things → b.declarative.KeepsPaths →
      b.baseline.KeepsPaths → b.baseline.Answers → ∃ package p', b.complete ⟨.empty, .empty, s⟩ = (.ok package, p') ∧
        package.contents.size = 4 ∧ package.contents.keys = paths := by
    intro σ b s hmodel hdeclarative hbaseline hanswers
    have hops : Plan.operations b.model = .ok plannedThings := hmodel ▸ operations_things
    obtain ⟨package, p', hcomplete⟩ := Builder.exists_complete hanswers hops ⟨.empty, .empty, s⟩
    obtain ⟨_, _, hspec⟩ := contents_of_complete (σ := σ)
    obtain ⟨⟨ops, hplanned, hpaths⟩, _, hentries, hsize, _⟩ :=
      hspec b ⟨.empty, .empty, s⟩ p' package hdeclarative hbaseline hcomplete
    obtain rfl : plannedThings = ops := Except.ok.inj (hops.symm.trans hplanned)
    rw [hmodel] at hsize hpaths
    refine ⟨package, p', hcomplete, hsize, ?_⟩
    rw [Dict.keys, hentries, List.map_map]
    exact hpaths.trans (by decide +kernel)
  refine ⟨?_, ?_⟩
  · intro b
    exact hcontents b () rfl (keepsPaths_lift Declarative.path_of_emit) (keepsPaths_lift Baseline.path_of_emit)
      answers_baseline
  · intro fault b
    obtain ⟨package, p', hcomplete, hsize, hkeys⟩ := hcontents b 0 rfl
      (keepsPaths_withFault Declarative.path_of_emit (some fault)) (keepsPaths_lift Baseline.path_of_emit)
      answers_baseline
    have hways : (b.complete ⟨.empty, .empty, 0⟩).1.map (fun package => package.files.map fun e => (e.via, e.attempts)) =
        .ok [(.baseline, 2), (.declarative, 2), (.declarative, 1), (.declarative, 1)] := by
      decide +kernel
    rw [hcomplete] at hways
    exact ⟨package, p', hcomplete, hsize, hkeys, Except.ok.inj hways⟩

end ClientGen
