import ClientGen.Comparison.Validation
import ClientGen.Proofs.Build.Complete
import ClientGen.Proofs.Comparison.Differences

/-!
# When validation passes

Where both ways of emitting depend on the part alone, a validation passes exactly if both runs succeed, the first one
without falling back, and their outputs have the same interface. Switches that the model sets and variables of the
environment have no part in it.
-/

namespace ClientGen

open Comparison (SameInterface)
open Plan (Part)

variable {σ : Type}

namespace Emission

/-- Both ways of emitting, with all switches set one way. -/
def forced (policy : RetryPolicy) (declarative baseline : PureEmitter) (enabled : Bool) : Emission :=
  ⟨.all enabled, policy, declarative, baseline⟩

/-- What is made of the files of source code of a model where nothing was built before. -/
def sources (b : Emission) (m : Service.Model) : Except BuildError (List Emitted) :=
  match Plan.operations m with
  | .error fault => .error (.model fault)
  | .ok ops => (Plan.sourceParts m ops).mapM (b.choice .empty)

theorem nodup_context_sourceParts {m : Service.Model} {ops : List Plan.Operation} (h : Plan.operations m = .ok ops) :
    ((Plan.sourceParts m ops).map Part.context).Nodup :=
  (List.nodup_cons.1 (nodup_context_parts h)).2

theorem builder_sources (b : Emission) (m : Service.Model) (see : EmitCall → σ → σ) (s : σ) :
    ((b.builder m see).sources .empty s).1 = b.sources m := by
  have hmodel : Plan.operations (b.builder m see).model = Plan.operations m := rfl
  rw [Builder.sources, Builder.withOperations, hmodel, sources]
  cases hops : Plan.operations m with
  | error fault => rfl
  | ok ops => exact (buildAll_eq (nodup_context_sourceParts hops) .empty s).1

end Emission

/-! ## Runs -/

namespace Validator

/-- A validator over two ways of emitting that depend on the part alone; `see` is what a call does to the state. -/
def answering (policy : RetryPolicy) (declarative baseline : PureEmitter) (see : EmitCall → σ → σ) : Validator σ where
  policy := policy
  declarative := fun part => .answering (declarative part) (see (.declarative, part))
  baseline := fun part => .answering (baseline part) (see (.baseline, part))

variable (policy : RetryPolicy) (declarative baseline : PureEmitter) (see : EmitCall → σ → σ)

/-- One run of a validation makes the same files whatever was called before. -/
theorem generate_answering (m : Service.Model) (enabled : Bool) (s : σ) :
    ((answering policy declarative baseline see).generate m enabled s).1 =
      (Emission.forced policy declarative baseline enabled).sources m :=
  (Emission.forced policy declarative baseline enabled).builder_sources (m.withSwitches (.forced enabled)) see s

/-- What a validation comes to: the first error of its runs, or the comparison of their files. -/
def verdict (name : String) (primary baseline : Except BuildError (List Emitted)) : ValidationResult :=
  match primary, baseline with
  | .ok primary, .ok baseline => .ofRuns name primary baseline
  | .error e, _ => .ofError name e
  | _, .error e => .ofError name e

theorem validate_eq (v : Validator σ) (name : String) (m : Service.Model) (s : σ) :
    (v.validate name m s).1 =
      verdict name (v.generate m true s).1 (v.generate m false (v.generate m true s).2).1 := by
  unfold validate verdict
  rcases v.generate m true s with ⟨primary, s₁⟩
  rcases hbaseline : v.generate m false s₁ with ⟨baseline, s₂⟩
  cases primary <;> cases baseline <;> simp [hbaseline]

theorem validate_answering (name : String) (m : Service.Model) (s : σ) :
    ((answering policy declarative baseline see).validate name m s).1 =
      verdict name ((Emission.forced policy declarative baseline true).sources m)
        ((Emission.forced policy declarative baseline false).sources m) := by
  rw [validate_eq, generate_answering, generate_answering]

end Validator

/-! ## Verdicts -/

theorem ValidationResult.fallbacks_eq_nil_iff {files : List Emitted} :
    fallbacks files = [] ↔ ∀ e ∈ files, e.via = .declarative := by
  simp [fallbacks, List.filter_eq_nil_iff]

theorem ValidationResult.passed_ofRuns_iff {name : String} {primary baseline : List Emitted} :
    (ofRuns name primary baseline).passed = true ↔
      (∀ e ∈ primary, e.via = .declarative) ∧ SameInterface (output primary) (output baseline) := by
  rw [ofRuns, List.isEmpty_iff, List.append_eq_nil_iff, fallbacks_eq_nil_iff, Comparison.differences_eq_nil_iff]

theorem Validator.passed_verdict_iff {name : String} {primary baseline : Except BuildError (List Emitted)} :
    (verdict name primary baseline).passed = true ↔ ∃ files files', primary = .ok files ∧ baseline = .ok files' ∧
      (∀ e ∈ files, e.via = .declarative) ∧
      SameInterface (ValidationResult.output files) (ValidationResult.output files') := by
  cases primary with
  | error e => simp [verdict, ValidationResult.ofError]
  | ok files =>
    cases baseline with
    | error e => simp [verdict, ValidationResult.ofError]
    | ok files' => simp [verdict, ValidationResult.passed_ofRuns_iff]

/-- No differences is an equivalence of source texts: the same exported names, equally many, and the same imports;
and a name that only one of them exports is reported. With two ways of emitting that depend on the part alone, a
validation passes exactly if both its runs succeed, all files of the first were made the declarative way, and the
outputs have no differences. A run is made for a model with its switches replaced, so that under any environment each
target is made one way, and it makes the same files whatever was called before; the verdict is the same whatever switches
the model came with. -/
theorem validation_spec :
    (∀ a b, Comparison.differences a b = [] ↔ SameInterface a b) ∧
    Equivalence (fun a b => Comparison.differences a b = []) ∧
    (∀ a b, Comparison.Reported "baseline" (Comparison.exportedNames a) (Comparison.exportedNames b)
        (Comparison.differences a b) ∧
      Comparison.Reported "declarative" (Comparison.exportedNames b) (Comparison.exportedNames a)
        (Comparison.differences a b)) ∧
    ∀ (policy : RetryPolicy) (declarative baseline : PureEmitter) (see : EmitCall → σ → σ) (name : String)
      (m : Service.Model) (s : σ),
      let v := Validator.answering policy declarative baseline see
      ((v.validate name m s).1.passed = true ↔ ∃ files files', (v.generate m true s).1 = .ok files ∧
        (v.generate m false s).1 = .ok files' ∧ (∀ e ∈ files, e.via = .declarative) ∧
          SameInterface (ValidationResult.output files) (ValidationResult.output files')) ∧
      (∀ enabled s', (v.generate m enabled s').1 =
        (Emission.forced policy declarative baseline enabled).sources m) ∧
      (∀ enabled env, Flags.resolve (m.withSwitches (.forced enabled)).options.switches env = .all enabled ∧
        (v.builder m enabled).flags = .all enabled ∧ ∀ target, (v.builder m enabled).flags.enabledFor target = enabled) ∧
      ∀ switches s', (v.validate name (m.withSwitches switches) s').1 = (v.validate name m s).1 := by
  refine ⟨fun a b => Comparison.differences_eq_nil_iff, ?_, Comparison.reported_differences, ?_⟩
  · simp only [Comparison.differences_eq_nil_iff]
    exact Comparison.equivalence_sameInterface
  · intro policy declarative baseline see name m s v
    refine ⟨?_, Validator.generate_answering policy declarative baseline see m, fun enabled env => ⟨rfl, rfl, ?_⟩,
      fun switches s' => ?_⟩
    · rw [Validator.validate_answering, Validator.generate_answering, Validator.generate_answering,
        Validator.passed_verdict_iff]
    · intro target
      cases target <;> cases enabled <;> rfl
    · rw [Validator.validate_answering, Validator.validate_answering]
      rfl

/-- An emitter that gives one text for every part, and can be down for a target. -/
def repeating (text : String) (down : Option Target) : PureEmitter := fun part =>
  if down = some part.target then .error (.other "down") else .ok ⟨part.path, text⟩

/-- Texts that differ in a comment and in an initial value pass. A name of its own does not, nor does a class for which the
baseline steps in. -/
theorem validation_spec_things :
    let v (text : String) (down : Option Target) : Validator Nat :=
      .answering ⟨1, 5, 0⟩ (repeating text down) (repeating "export let x = 1;" none) fun _ calls => calls + 1
    ((v "export let x; //" none).validate "things" things 0).1.passed = true ∧
      ((v "export let y;" none).validate "things" things 0).1.passed = false ∧
      ((v "export let x = 1;" (some .clientClass)).validate "things" things 0).1.passed = false := by
  intro v
  obtain ⟨hdifferences, _, _, hvalidation⟩ := @validation_spec Nat
  refine ⟨?_, ?_, ?_⟩
  · obtain ⟨hpassed, _⟩ := hvalidation ⟨1, 5, 0⟩ (repeating "export let x; //" none)
      (repeating "export let x = 1;" none) (fun _ calls => calls + 1) "things" things 0
    exact hpassed.2 ⟨_, _, rfl, rfl, by decide +kernel, (hdifferences _ _).1 (by decide +kernel)⟩
  · obtain ⟨hpassed, _⟩ := hvalidation ⟨1, 5, 0⟩ (repeating "export let y;" none)
      (repeating "export let x = 1;" none) (fun _ calls => calls + 1) "things" things 0
    rw [Bool.eq_false_iff, ne_eq, hpassed]
    rintro ⟨files, files', hfiles, hfiles', -, hsame⟩
    cases hfiles
    cases hfiles'
    exact absurd ((hdifferences _ _).2 hsame) (by decide +kernel)
  · obtain ⟨hpassed, _⟩ := hvalidation ⟨1, 5, 0⟩ (repeating "export let x = 1;" (some .clientClass))
      (repeating "export let x = 1;" none) (fun _ calls => calls + 1) "things" things 0
    rw [Bool.eq_false_iff, ne_eq, hpassed]
    rintro ⟨files, files', hfiles, -, hvia, -⟩
    cases hfiles
    exact absurd hvia (by decide +kernel)

end ClientGen
