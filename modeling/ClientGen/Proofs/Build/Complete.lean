import ClientGen.Build.Package
import ClientGen.Proofs.Plan.Operation
import ClientGen.Proofs.Recovery.Run
import Mathlib.Logic.Function.Iterate

/-!
# Complete packages

Where both ways of emitting depend on the part alone, what is made of a part depends on the part, the switches and the
counter of its own context at the start of the build. The parts have contexts of their own, so that the counters they
leave behind are of no concern to each other.
-/

namespace ClientGen

open Plan (Part)

variable {σ α : Type}

/-! ## Ways that always answer alike -/

/-- An attempt with one result, whatever the state; `see` is what a call does to the state. -/
def Attempt.answering (result : Except EmitError α) (see : σ → σ) : Attempt σ α := fun s => (result, see s)

theorem retry_answering_ok (a : α) (see : σ → σ) (n count : Nat) (s : σ) :
    retry (Attempt.answering (.ok a) see) n count s = (.ok (a, count), see s) := by
  cases n <;> rfl

theorem retry_answering_error (e : EmitError) (see : σ → σ) (n count : Nat) (s : σ) :
    retry (Attempt.answering (.error e : Except EmitError α) see) n count s = (.error e, see^[n + 1] s) := by
  induction n generalizing count s with
  | zero => rfl
  | succ n ih => exact ih (count + 1) (see s)

/-- Two ways of emitting that depend on the part alone, and when which of them is used. -/
structure Emission where
  flags : Flags
  policy : RetryPolicy
  declarative : PureEmitter
  baseline : PureEmitter

/-- A call of one of the two ways. -/
abbrev EmitCall := Via × Part

namespace Emission

/-- A builder for a model; `see` is what a call does to the state of its emitters. -/
def builder (b : Emission) (model : Service.Model) (see : EmitCall → σ → σ) : Builder σ where
  model := model
  flags := b.flags
  policy := b.policy
  declarative := fun part => .answering (b.declarative part) (see (.declarative, part))
  baseline := fun part => .answering (b.baseline part) (see (.baseline, part))

/-- The declarative way is tried for a part. -/
def Tries (b : Emission) (c : Counters) (part : Part) : Prop :=
  Recovery.Tries b.policy part.context (b.flags.enabledFor part.target) c

instance (b : Emission) (c : Counters) (part : Part) : Decidable (b.Tries c part) :=
  inferInstanceAs (Decidable (Recovery.Tries _ _ _ _))

/-- What the baseline makes of a part after a number of attempts. -/
def fromBaseline (b : Emission) (part : Part) (attempts : Nat) : Except BuildError Emitted :=
  match b.baseline part with
  | .ok file => .ok ⟨file, part.target, .baseline, attempts⟩
  | .error e => .error (.baseline part.context e)

/-- What is made of a part, given the counters at the start. -/
def choice (b : Emission) (c : Counters) (part : Part) : Except BuildError Emitted :=
  if b.Tries c part then
    match b.declarative part with
    | .ok file => .ok ⟨file, part.target, .declarative, 1⟩
    | .error _ => b.fromBaseline part b.policy.attempts
  else b.fromBaseline part 0

/-- The calls that are made for a part. -/
def calls (b : Emission) (c : Counters) (part : Part) : List EmitCall :=
  if b.Tries c part then
    match b.declarative part with
    | .ok _ => [(.declarative, part)]
    | .error _ => List.replicate b.policy.attempts (.declarative, part) ++ [(.baseline, part)]
  else [(.baseline, part)]

/-- The baseline is needed for a part. -/
def NeedsBaseline (b : Emission) (c : Counters) (part : Part) : Prop :=
  b.Tries c part → ∃ e, b.declarative part = .error e

/-- The state after calls. -/
def after (see : EmitCall → σ → σ) (s : σ) (calls : List EmitCall) : σ := calls.foldl (fun s call => see call s) s

variable {b : Emission} {model : Service.Model} {see : EmitCall → σ → σ}

theorem after_replicate (s : σ) (n : Nat) (call : EmitCall) :
    after see s (List.replicate n call) = (see call)^[n] s := by
  induction n generalizing s with
  | zero => rfl
  | succ n ih => exact ih (see call s)

/-! ## One part -/

section Part

variable {part : Part} {c : Counters} (b model see)

theorem build_of_not_tries (h : ¬ b.Tries c part) (s : σ) :
    ∃ c', (b.builder model see).build part c s = (b.fromBaseline part 0, c', see (.baseline, part) s) := by
  unfold Builder.build Recovery.run
  by_cases henabled : b.flags.enabledFor part.target = true
  · have hcount : b.policy.fallbackThreshold ≤ c.errorCount part.context :=
      Nat.le_of_not_lt fun hlt => h ⟨henabled, hlt⟩
    cases hb : b.baseline part <;>
      simp [builder, henabled, hcount, hb, fromBaseline, Recovery.fallBack, Attempt.answering, Except.map]
  · cases hb : b.baseline part <;>
      simp [builder, henabled, hb, fromBaseline, Recovery.withoutPrimary, Attempt.answering, Except.map]

theorem build_of_tries (h : b.Tries c part) (s : σ) :
    ∃ c', (b.builder model see).build part c s =
      match b.declarative part with
      | .ok file => (.ok ⟨file, part.target, .declarative, 1⟩, c', see (.declarative, part) s)
      | .error _ => (b.fromBaseline part b.policy.attempts, c',
          see (.baseline, part) ((see (.declarative, part))^[b.policy.attempts] s)) := by
  obtain ⟨henabled, hlt⟩ := h
  have hcount : ¬ b.policy.fallbackThreshold ≤ c.errorCount part.context := Nat.not_le.2 hlt
  unfold Builder.build Recovery.run
  cases hd : b.declarative part with
  | ok file => simp [builder, henabled, hcount, Recovery.withPrimary, hd, retry_answering_ok, Except.map]
  | error e =>
    have htries := @retry_answering_error _ GeneratedFile e (see (.declarative, part)) (b.policy.attempts - 1) 1 s
    rw [Recovery.attempts_sub_one] at htries
    cases hb : b.baseline part <;>
      simp [builder, henabled, hcount, Recovery.withPrimary, hd, htries, hb, fromBaseline, Recovery.fallBack,
        Attempt.answering, Except.map]

/-- One part is built by choice, and with the calls for it. -/
theorem build_eq (part : Part) (c : Counters) (s : σ) :
    ∃ c', (b.builder model see).build part c s = (b.choice c part, c', after see s (b.calls c part)) := by
  unfold choice calls
  by_cases h : b.Tries c part
  · obtain ⟨c', hbuild⟩ := build_of_tries b model see h s
    refine ⟨c', ?_⟩
    rw [hbuild, if_pos h, if_pos h]
    cases b.declarative part with
    | ok file => rfl
    | error e =>
      simp only [after, List.foldl_append, ← after_replicate]
      rfl
  · obtain ⟨c', hbuild⟩ := build_of_not_tries b model see h s
    refine ⟨c', ?_⟩
    rw [hbuild, if_neg h, if_neg h]
    rfl

theorem errorCount_build_of_ne {context : String} (h : context ≠ part.context) (c : Counters) (s : σ) :
    ((b.builder model see).build part c s).2.1.errorCount context = c.errorCount context :=
  Recovery.errorCount_run_of_ne h c s

end Part

/-! ## Parts in order -/

/-- Choice depends on nothing in the counters but the counter of the part's own context. -/
theorem tries_congr {c c' : Counters} {part : Part} (h : c'.errorCount part.context = c.errorCount part.context) :
    b.Tries c' part ↔ b.Tries c part := by
  rw [Tries, Tries, Recovery.Tries, Recovery.Tries, h]

theorem choice_congr {c c' : Counters} {part : Part} (h : c'.errorCount part.context = c.errorCount part.context) :
    b.choice c' part = b.choice c part := by
  simp only [choice, tries_congr h]

theorem calls_congr {c c' : Counters} {part : Part} (h : c'.errorCount part.context = c.errorCount part.context) :
    b.calls c' part = b.calls c part := by
  simp only [calls, tries_congr h]

/-- The parts up to the first of which nothing can be made, this one included. -/
def visited (b : Emission) (c : Counters) : List Part → List Part
  | [] => []
  | part :: rest =>
    match b.choice c part with
    | .ok _ => part :: visited b c rest
    | .error _ => [part]

theorem mem_of_mem_visited {c : Counters} {parts : List Part} {part : Part} (h : part ∈ b.visited c parts) :
    part ∈ parts := by
  induction parts with
  | nil => exact h
  | cons q rest ih =>
    unfold visited at h
    split at h
    · rcases List.mem_cons.1 h with rfl | h
      · exact List.mem_cons_self
      · exact List.mem_cons_of_mem _ (ih h)
    · exact List.mem_singleton.1 h ▸ List.mem_cons_self

theorem visited_congr {c c' : Counters} {parts : List Part}
    (h : ∀ part ∈ parts, c'.errorCount part.context = c.errorCount part.context) :
    b.visited c' parts = b.visited c parts := by
  induction parts with
  | nil => rfl
  | cons part rest ih =>
    have hrest := ih fun q hq => h q (List.mem_cons_of_mem _ hq)
    simp only [visited, choice_congr (h part List.mem_cons_self), hrest]

theorem mapM_choice_congr {c c' : Counters} {parts : List Part}
    (h : ∀ part ∈ parts, c'.errorCount part.context = c.errorCount part.context) :
    parts.mapM (b.choice c') = parts.mapM (b.choice c) := by
  induction parts with
  | nil => rfl
  | cons part rest ih =>
    have hrest := ih fun q hq => h q (List.mem_cons_of_mem _ hq)
    simp only [List.mapM_cons, choice_congr (h part List.mem_cons_self), hrest]

/-- Parts with contexts of their own are built each by its own choice, from the counters at the start. -/
theorem buildAll_eq {parts : List Part} (h : (parts.map Part.context).Nodup) (c : Counters) (s : σ) :
    ((b.builder model see).buildAll parts c s).1 = parts.mapM (b.choice c) ∧
      ((b.builder model see).buildAll parts c s).2.2 =
        after see s ((b.visited c parts).flatMap (b.calls c)) := by
  induction parts generalizing c s with
  | nil => exact ⟨rfl, rfl⟩
  | cons part rest ih =>
    rw [List.map_cons, List.nodup_cons] at h
    obtain ⟨c', hbuild⟩ := build_eq b model see part c s
    have hkeep : ∀ q ∈ rest, c'.errorCount q.context = c.errorCount q.context := by
      intro q hq
      have hne : q.context ≠ part.context := fun heq => h.1 (heq ▸ List.mem_map_of_mem hq)
      have hcount := errorCount_build_of_ne b model see hne c s
      rwa [hbuild] at hcount
    obtain ⟨hfiles, hstate⟩ := ih h.2 c' (after see s (b.calls c part))
    rw [Builder.buildAll, hbuild, List.mapM_cons, visited]
    cases hchoice : b.choice c part with
    | error e => simp
    | ok file =>
      simp only [hfiles, hstate, mapM_choice_congr hkeep, visited_congr hkeep]
      have hcalls : (b.visited c rest).flatMap (b.calls c') = (b.visited c rest).flatMap (b.calls c) :=
        List.flatMap_congr fun q hq => calls_congr (hkeep q (mem_of_mem_visited hq))
      rw [hcalls]
      refine ⟨?_, ?_⟩
      · cases rest.mapM (b.choice c) <;> rfl
      · rw [List.flatMap_cons, after, after, after, List.foldl_append]

/-! ## Which parts fail -/

/-- Nothing can be made of a part: it needs the baseline, and the baseline has no answer. -/
def Fails (b : Emission) (c : Counters) (part : Part) : Prop :=
  b.NeedsBaseline c part ∧ ∃ e, b.baseline part = .error e

theorem fromBaseline_eq_error_iff {part : Part} {attempts : Nat} {e : BuildError} :
    b.fromBaseline part attempts = .error e ↔ ∃ e', b.baseline part = .error e' ∧ e = .baseline part.context e' := by
  unfold fromBaseline
  cases b.baseline part <;> simp [eq_comm]

theorem choice_eq_error_iff {c : Counters} {part : Part} {e : BuildError} :
    b.choice c part = .error e ↔
      b.NeedsBaseline c part ∧ ∃ e', b.baseline part = .error e' ∧ e = .baseline part.context e' := by
  unfold choice NeedsBaseline
  by_cases h : b.Tries c part
  · cases hd : b.declarative part with
    | ok file => simp [h]
    | error e' => simp [h, fromBaseline_eq_error_iff]
  · simp [h, fromBaseline_eq_error_iff]

theorem exists_choice_eq_ok_iff {c : Counters} {part : Part} :
    (∃ file, b.choice c part = .ok file) ↔ ¬ b.Fails c part := by
  cases hchoice : b.choice c part with
  | ok file =>
    refine iff_of_true ⟨file, rfl⟩ fun ⟨hneeds, e, he⟩ => ?_
    have herror := choice_eq_error_iff.2 ⟨hneeds, e, he, rfl⟩
    exact absurd (hchoice.symm.trans herror) (by simp)
  | error e =>
    obtain ⟨hneeds, e', he', _⟩ := choice_eq_error_iff.1 hchoice
    exact iff_of_false (by simp) (not_not.2 ⟨hneeds, e', he'⟩)

/-! ## The package -/

/-- The parts: the manifest, the definitions, the class, and a file for each operation. -/
theorem parts_eq (ops : List Plan.Operation) :
    Plan.parts model ops = .packageJson (Plan.manifest model) ::
      .clientDefinitions (Plan.clientDefinitions model ops) :: .clientClass (Plan.clientClass model ops) ::
        ops.map fun op => .operationFile (Plan.operationFile model op) := rfl

/-- The contexts of the parts with their targets: three fixed ones, and one for each operation. -/
theorem map_context_target_parts (ops : List Plan.Operation) :
    (Plan.parts model ops).map (fun part => (part.context, part.target)) =
      [("packageJson", .packageJson), ("clientDefinitions", .clientDefinitions), ("clientClass", .clientClass)] ++
        ops.map fun op => ("operationFunction:" ++ op.name, .operationFunctions) := by
  rw [parts_eq, List.map_cons, List.map_cons, List.map_cons, List.map_map]
  rfl

theorem map_context_parts (ops : List Plan.Operation) :
    (Plan.parts model ops).map Part.context =
      ["packageJson", "clientDefinitions", "clientClass"] ++ ops.map fun op => "operationFunction:" ++ op.name := by
  simpa [Function.comp_def] using congrArg (List.map Prod.fst) (@map_context_target_parts model ops)

theorem nodup_context_parts {ops : List Plan.Operation} (h : Plan.operations model = .ok ops) :
    ((Plan.parts model ops).map Part.context).Nodup := by
  have hinjective : Function.Injective fun name : String => "operationFunction:" ++ name := by
    intro name name' heq
    simpa [← String.toList_inj] using heq
  have hnames := ((Plan.operations_eq_ok_iff.1 h).2).map hinjective
  rw [List.map_map] at hnames
  rw [map_context_parts, List.nodup_append]
  refine ⟨by decide, hnames, ?_⟩
  intro context hfixed context' hoperation
  obtain ⟨op, _, rfl⟩ := List.mem_map.1 hoperation
  simp only [List.mem_cons, List.not_mem_nil, or_false] at hfixed
  rcases hfixed with rfl | rfl | rfl <;> simp [← String.toList_inj]

/-- A faulty model stops a build before anything is done. -/
theorem complete_of_error {fault : ModelFault} (h : Plan.operations model = .error fault) (p : Progress σ) :
    (b.builder model see).complete p = (.error (.model fault), p) := by
  simp [Builder.complete, builder, h]

/-- What a build of a planned model makes, and with which calls. -/
theorem complete_of_ok {ops : List Plan.Operation} (h : Plan.operations model = .ok ops) (p : Progress σ) :
    ((b.builder model see).complete p).1 = ((Plan.parts model ops).mapM (b.choice p.counters)).map Package.mk ∧
      ((b.builder model see).complete p).2.registry = (b.builder model see).references ∧
      ((b.builder model see).complete p).2.emitters = after see p.emitters
        ((b.visited p.counters (Plan.parts model ops)).flatMap (b.calls p.counters)) := by
  obtain ⟨hfiles, hstate⟩ :=
    @buildAll_eq _ b model see _ (nodup_context_parts h) p.counters p.emitters
  have hmodel : Plan.operations (b.builder model see).model = .ok ops := h
  rw [Builder.complete, hmodel]
  exact ⟨congrArg (Except.map Package.mk) hfiles, rfl, hstate⟩

theorem exists_mapM_choice_eq_error_iff {c : Counters} {parts : List Part} :
    (∃ e, parts.mapM (b.choice c) = .error e) ↔ ∃ part ∈ parts, b.Fails c part := by
  rw [exists_mapM_eq_error_iff]
  refine exists_congr fun part => and_congr_right fun _ => ?_
  rw [← not_iff_not, ← exists_choice_eq_ok_iff]
  cases b.choice c part <;> simp

/-- What a build comes to, whatever was built before. A faulty model changes nothing and calls nobody. Otherwise the
manifest, the definitions, the class and the file of each operation are made in this order, each by its own choice, from
the counters at the start, and up to the first part that needs the baseline in vain. -/
theorem complete_spec (b : Emission) (model : Service.Model) (see : EmitCall → σ → σ) (p : Progress σ) :
    (∀ fault, Plan.operations model = .error fault →
      (b.builder model see).complete p = (.error (.model fault), p)) ∧
    ∀ ops, Plan.operations model = .ok ops →
      List.Forall₂ Plan.PlannedAs model.operations ops ∧
      Plan.parts model ops = .packageJson (Plan.manifest model) ::
        .clientDefinitions (Plan.clientDefinitions model ops) :: .clientClass (Plan.clientClass model ops) ::
          ops.map (fun op => .operationFile (Plan.operationFile model op)) ∧
      (Plan.parts model ops).map (fun part => (part.context, part.target)) =
        [("packageJson", .packageJson), ("clientDefinitions", .clientDefinitions), ("clientClass", .clientClass)] ++
          ops.map (fun op => ("operationFunction:" ++ op.name, .operationFunctions)) ∧
      ((b.builder model see).complete p).1 = ((Plan.parts model ops).mapM (b.choice p.counters)).map Package.mk ∧
      ((b.builder model see).complete p).2.registry = (b.builder model see).references ∧
      ((b.builder model see).complete p).2.emitters = after see p.emitters
        ((b.visited p.counters (Plan.parts model ops)).flatMap (b.calls p.counters)) ∧
      ((∃ e, ((b.builder model see).complete p).1 = .error e) ↔
        ∃ part ∈ Plan.parts model ops, b.Fails p.counters part) ∧
      ∀ e, ((b.builder model see).complete p).1 = .error e ↔ ∃ before part rest e',
        Plan.parts model ops = before ++ part :: rest ∧ (∀ q ∈ before, ¬ b.Fails p.counters q) ∧
          b.NeedsBaseline p.counters part ∧ b.baseline part = .error e' ∧ e = .baseline part.context e' := by
  refine ⟨fun fault h => complete_of_error h p, fun ops h => ?_⟩
  obtain ⟨hfiles, hregistry, hstate⟩ := @complete_of_ok _ b model see ops h p
  have herror : ∀ e, ((b.builder model see).complete p).1 = .error e ↔
      (Plan.parts model ops).mapM (b.choice p.counters) = .error e := by
    intro e
    rw [hfiles]
    cases (Plan.parts model ops).mapM (b.choice p.counters) <;> simp [Except.map]
  refine ⟨(Plan.operations_eq_ok_iff.1 h).1, parts_eq ops, map_context_target_parts ops, hfiles, hregistry, hstate, ?_,
    fun e => ?_⟩
  · simp only [herror]
    exact exists_mapM_choice_eq_error_iff
  · simp only [herror, mapM_eq_error_iff, exists_choice_eq_ok_iff, choice_eq_error_iff]
    constructor
    · rintro ⟨before, part, rest, hparts, hbefore, hneeds, e', he', rfl⟩
      exact ⟨before, part, rest, e', hparts, hbefore, hneeds, he', rfl⟩
    · rintro ⟨before, part, rest, e', hparts, hbefore, hneeds, he', rfl⟩
      exact ⟨before, part, rest, hparts, hbefore, hneeds, e', he', rfl⟩

/-- A declarative emitter that always fails, over a baseline that has no client class. -/
def outage : Emission where
  flags := .all true
  policy := ⟨2, 5, 0⟩
  declarative := fun _ => .error (.other "down")
  baseline := fun
    | .clientClass _ => .error (.other "no class")
    | part => .ok ⟨part.path, ""⟩

/-- A declarative emitter that cannot do one operation, over a baseline that can do everything. -/
def patchy : Emission where
  flags := .all true
  policy := ⟨2, 5, 0⟩
  declarative := fun part =>
    if part.context = "operationFunction:readThing" then .error (.other "down") else .ok ⟨part.path, "tree"⟩
  baseline := fun part => .ok ⟨part.path, "template"⟩

def deleteThing : Service.Operation := { readThing with name := "deleteThing", method := .delete }

def twoThings : Service.Model :=
  { things with paths := ⟨[("/things/\x7bid\x7d", ⟨"thing", none, [], [readThing, deleteThing]⟩)], by simp⟩ }

def plannedTwoThings : List Plan.Operation :=
  plannedThings ++
    [Plan.plannedOperation "deleteThing" "/things/\x7bid\x7d" none deleteThing [(false, ⟨"id", "string", false, .path⟩)]]

/-- A build that ends at the class, and one that goes on to the operations, of which one falls back by itself. -/
theorem complete_spec_things :
    let see : EmitCall → List EmitCall → List EmitCall := fun call log => log ++ [call]
    let contexts : List EmitCall → List (Via × String) := List.map fun call => (call.1, call.2.context)
    (let done := (outage.builder things see).complete ⟨.empty, .empty, []⟩
     Plan.operations things = .ok plannedThings ∧
       done.1 = .error (.baseline "clientClass" (.other "no class")) ∧
       contexts done.2.emitters =
         [(.declarative, "packageJson"), (.declarative, "packageJson"), (.baseline, "packageJson"),
           (.declarative, "clientDefinitions"), (.declarative, "clientDefinitions"), (.baseline, "clientDefinitions"),
           (.declarative, "clientClass"), (.declarative, "clientClass"), (.baseline, "clientClass")]) ∧
    (let done := (patchy.builder twoThings see).complete ⟨.empty, .empty, []⟩
     Plan.operations twoThings = .ok plannedTwoThings ∧
       done.1 = .ok ⟨
         [⟨⟨"package.json", "tree"⟩, .packageJson, .declarative, 1⟩,
           ⟨⟨"src/clientDefinitions.ts", "tree"⟩, .clientDefinitions, .declarative, 1⟩,
           ⟨⟨"src/ThingsClient.ts", "tree"⟩, .clientClass, .declarative, 1⟩,
           ⟨⟨"src/api/readThing.ts", "template"⟩, .operationFunctions, .baseline, 2⟩,
           ⟨⟨"src/api/deleteThing.ts", "tree"⟩, .operationFunctions, .declarative, 1⟩]⟩ ∧
       contexts done.2.emitters =
         [(.declarative, "packageJson"), (.declarative, "clientDefinitions"), (.declarative, "clientClass"),
           (.declarative, "operationFunction:readThing"), (.declarative, "operationFunction:readThing"),
           (.baseline, "operationFunction:readThing"), (.declarative, "operationFunction:deleteThing")]) := by
  intro see contexts
  constructor
  · obtain ⟨_, hplanned⟩ := complete_spec outage things see ⟨.empty, .empty, []⟩
    obtain ⟨_, _, _, hfiles, _, hcalls, _⟩ := hplanned plannedThings operations_things
    refine ⟨operations_things, ?_, ?_⟩
    · rw [hfiles]
      rfl
    · rw [hcalls]
      rfl
  · have hops : Plan.operations twoThings = .ok plannedTwoThings := rfl
    obtain ⟨_, hplanned⟩ := complete_spec patchy twoThings see ⟨.empty, .empty, []⟩
    obtain ⟨_, _, _, hfiles, _, hcalls, _⟩ := hplanned plannedTwoThings hops
    refine ⟨hops, ?_, ?_⟩
    · rw [hfiles]
      decide +kernel
    · rw [hcalls]
      decide +kernel

end Emission

end ClientGen
