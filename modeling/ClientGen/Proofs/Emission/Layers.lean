import ClientGen.Project.Inspection
import Mathlib.Data.List.Induction

/-!
# Layers of switches

Switches are laid over one another, and what no layer sets is settled from the environment. A switch has the value that
the last layer gives it which sets it, so that neither the grouping of the layers nor a variable of a switch that is set
makes a difference; a forced layer on top decides everything.
-/

namespace ClientGen

/-- The switches one by one. -/
inductive Switch where
  | packageJson
  | codeGeneration
  | clientClass
  | clientInterface
  | operationFunction
  deriving DecidableEq, Repr

namespace Switch

/-- The variable of the environment that stands in for a switch. -/
def variableName : Switch → String
  | .packageJson => variableNames.packageJson
  | .codeGeneration => variableNames.codeGeneration
  | .clientClass => variableNames.clientClass
  | .clientInterface => variableNames.clientInterface
  | .operationFunction => variableNames.operationFunction

/-- A switch for a part of the code, which is as the switch for all code if nothing is said about it. -/
def followsCode : Switch → Bool
  | .packageJson | .codeGeneration => false
  | .clientClass | .clientInterface | .operationFunction => true

end Switch

def Target.switch : Target → Switch
  | .clientDefinitions => .clientInterface
  | .clientClass => .clientClass
  | .operationFunctions => .operationFunction
  | .packageJson => .packageJson

namespace Switches

def get (s : Switches) : Switch → Option Bool
  | .packageJson => s.packageJson
  | .codeGeneration => s.codeGeneration
  | .clientClass => s.clientClass
  | .clientInterface => s.clientInterface
  | .operationFunction => s.operationFunction

/-- The layers over one another, the first one at the bottom. -/
def layered (layers : List Switches) : Switches := layers.foldl overlay unset

/-- Of the layers that set a switch, the last one gives it a value. -/
def LastSets (layers : List Switches) (w : Switch) (b : Bool) : Prop :=
  ∃ before layer after, layers = before ++ layer :: after ∧ layer.get w = some b ∧ ∀ s ∈ after, s.get w = none

/-- No layer sets a switch. -/
def Open (layers : List Switches) (w : Switch) : Prop := ∀ s ∈ layers, s.get w = none

/-- A way of putting layers together, two at a time. -/
inductive Grouping where
  | layer (s : Switches)
  | stack (lower upper : Grouping)

namespace Grouping

def layers : Grouping → List Switches
  | .layer s => [s]
  | .stack lower upper => lower.layers ++ upper.layers

/-- The layers put together. -/
def merged : Grouping → Switches
  | .layer s => s
  | .stack lower upper => lower.merged.overlay upper.merged

end Grouping

variable {s t : Switches} {layers : List Switches} {w : Switch} {b : Bool}

theorem ext_get (h : ∀ w, s.get w = t.get w) : s = t := by
  have hpackage : s.packageJson = t.packageJson := h .packageJson
  have hcode : s.codeGeneration = t.codeGeneration := h .codeGeneration
  have hclass : s.clientClass = t.clientClass := h .clientClass
  have hinterface : s.clientInterface = t.clientInterface := h .clientInterface
  have hfunction : s.operationFunction = t.operationFunction := h .operationFunction
  cases s
  cases t
  simp_all

@[simp] theorem get_unset (w : Switch) : unset.get w = none := by cases w <;> rfl

@[simp] theorem get_forced (b : Bool) (w : Switch) : (forced b).get w = some b := by cases w <;> rfl

@[simp] theorem get_overlay (lower upper : Switches) (w : Switch) :
    (lower.overlay upper).get w = (upper.get w).or (lower.get w) := by
  cases w <;> exact Option.orElse_eq_or

theorem overlay_assoc (s t u : Switches) : (s.overlay t).overlay u = s.overlay (t.overlay u) :=
  ext_get fun w => by simp [Option.or_assoc]

@[simp] theorem unset_overlay (s : Switches) : unset.overlay s = s := ext_get fun w => by simp

@[simp] theorem overlay_forced (s : Switches) (b : Bool) : s.overlay (forced b) = forced b := ext_get fun w => by simp

theorem layered_concat (layers : List Switches) (s : Switches) :
    layered (layers ++ [s]) = (layered layers).overlay s :=
  List.foldl_append

theorem layered_append (layers layers' : List Switches) :
    layered (layers ++ layers') = (layered layers).overlay (layered layers') := by
  induction layers' using List.reverseRecOn with
  | nil => exact ext_get fun w => by simp [layered]
  | append_singleton layers' s ih => rw [← List.append_assoc, layered_concat, ih, layered_concat, overlay_assoc]

theorem get_layered_eq_none_iff : (layered layers).get w = none ↔ Open layers w := by
  induction layers using List.reverseRecOn with
  | nil => simp [layered, Open]
  | append_singleton layers s ih =>
    rw [layered_concat, get_overlay, Option.or_eq_none_iff, ih, Open, Open, List.forall_mem_append,
      List.forall_mem_singleton, and_comm]

theorem get_layered_of_lastSets (h : LastSets layers w b) : (layered layers).get w = some b := by
  obtain ⟨before, layer, after, rfl, hlayer, hafter⟩ := h
  have hopen : (layered after).get w = none := get_layered_eq_none_iff.2 hafter
  rw [List.append_cons, layered_append, layered_concat, get_overlay, get_overlay, hopen, hlayer, Option.none_or,
    Option.some_or]

namespace Grouping

/-- However layers are put together, they come to the same. -/
theorem merged_eq (g : Grouping) : g.merged = layered g.layers := by
  induction g with
  | layer s => exact (unset_overlay s).symm
  | stack lower upper ihl ihu => rw [merged, ihl, ihu, layers, layered_append]

end Grouping

end Switches

namespace Flags

open Switches (layered LastSets Open Grouping)

variable {s : Switches} {layers : List Switches} {env : Environment} {w : Switch}

def get (f : Flags) : Switch → Bool
  | .packageJson => f.packageJson
  | .codeGeneration => f.codeGeneration
  | .clientClass => f.clientClass
  | .clientInterface => f.clientInterface
  | .operationFunction => f.operationFunction

theorem ext_get {f f' : Flags} (h : ∀ w, f.get w = f'.get w) : f = f' := by
  have hpackage : f.packageJson = f'.packageJson := h .packageJson
  have hcode : f.codeGeneration = f'.codeGeneration := h .codeGeneration
  have hclass : f.clientClass = f'.clientClass := h .clientClass
  have hinterface : f.clientInterface = f'.clientInterface := h .clientInterface
  have hfunction : f.operationFunction = f'.operationFunction := h .operationFunction
  cases f
  cases f'
  simp_all

theorem enabledFor_eq_get (f : Flags) (target : Target) : f.enabledFor target = f.get target.switch := by
  cases target <;> rfl

/-- What a switch comes to that is set neither by a layer nor by its variable. -/
def fallback (f : Flags) (w : Switch) : Bool := if w.followsCode then f.get .codeGeneration else false

theorem get_resolve (s : Switches) (env : Environment) (w : Switch) :
    (resolve s env).get w = settle env (s.get w) w.variableName ((resolve s env).fallback w) := by
  cases w <;> rfl

theorem get_resolve_of_set {b : Bool} (h : s.get w = some b) : (resolve s env).get w = b := by
  rw [get_resolve, h]
  rfl

theorem get_resolve_of_open (h : s.get w = none) :
    (resolve s env).get w = ((env w.variableName).bind toggle?).getD ((resolve s env).fallback w) := by
  rw [get_resolve, h]
  rfl

theorem get_resolve_forced (b : Bool) (env : Environment) (w : Switch) : (resolve (.forced b) env).get w = b :=
  get_resolve_of_set (Switches.get_forced b w)

/-- Flags come out alike in environments that agree on the switches left open. -/
theorem resolve_congr {env' : Environment}
    (h : ∀ w, s.get w = none → env' w.variableName = env w.variableName) : resolve s env' = resolve s env := by
  have hswitch : ∀ w, (resolve s env').fallback w = (resolve s env).fallback w →
      (resolve s env').get w = (resolve s env).get w := by
    intro w hfallback
    cases hw : s.get w with
    | some b => rw [get_resolve_of_set hw, get_resolve_of_set hw]
    | none => rw [get_resolve_of_open hw, get_resolve_of_open hw, h w hw, hfallback]
  -- The switch for all code is settled first, since the others may come to what it is.
  have hcode : (resolve s env').get .codeGeneration = (resolve s env).get .codeGeneration :=
    hswitch .codeGeneration rfl
  refine ext_get fun w => hswitch w ?_
  rw [fallback, fallback, hcode]

/-- Layers of switches, settled in an environment: a switch has the value of the last layer that sets it; if none does,
that of its variable if this is a toggle; and else it is off, or as the switch for all code. So it does not matter how
layers are put together, nor what the variables of switches say that a layer sets, and a forced layer on top of those
of a model and of a project decides all switches and all targets. -/
theorem resolve_layered (layers : List Switches) (env : Environment) :
    let flags := resolve (layered layers) env
    (∀ w b, LastSets layers w b → flags.get w = b) ∧
    (∀ w, Open layers w →
      (∀ text b, env w.variableName = some text → toggle? text = some b → flags.get w = b) ∧
      ((∀ text, env w.variableName = some text → toggle? text = none) →
        flags.get w = if w.followsCode then flags.get .codeGeneration else false)) ∧
    (∀ g : Grouping, g.layers = layers → resolve g.merged env = flags) ∧
    (∀ env', (∀ w, Open layers w → env' w.variableName = env w.variableName) → resolve (layered layers) env' = flags) ∧
    (∀ m config command, ∀ g : Grouping, g.layers = [m.options.switches, config.emission, command] →
      Project.flagsFor m config command env = resolve g.merged env) ∧
    ∀ m config enabled, let forced := Project.flagsFor m config (.forced enabled) env
      (∀ w, forced.get w = enabled) ∧ ∀ target, forced.enabledFor target = enabled := by
  intro flags
  refine ⟨fun w b hset => get_resolve_of_set (Switches.get_layered_of_lastSets hset), fun w hopen => ?_, ?_, ?_, ?_, ?_⟩
  · have hget : flags.get w = _ := get_resolve_of_open (Switches.get_layered_eq_none_iff.2 hopen)
    refine ⟨fun text b htext htoggle => ?_, fun hnone => ?_⟩
    · rw [hget, htext, Option.bind_some, htoggle, Option.getD_some]
    · rw [hget, Option.bind_eq_none_iff.2 hnone, Option.getD_none]
      rfl
  · rintro g rfl
    rw [g.merged_eq]
  · exact fun env' henv => resolve_congr fun w hw => henv w (Switches.get_layered_eq_none_iff.1 hw)
  · intro m config command g hlayers
    have hlayered : layered [m.options.switches, config.emission, command] =
        ((Switches.unset.overlay m.options.switches).overlay config.emission).overlay command := rfl
    rw [g.merged_eq, hlayers, hlayered, Switches.unset_overlay, Project.flagsFor]
  · intro m config enabled forced
    have hget : ∀ w, forced.get w = enabled := fun w => by
      simp only [forced, Project.flagsFor, Switches.overlay_forced, get_resolve_forced]
    exact ⟨hget, fun target => (enabledFor_eq_get forced target).trans (hget _)⟩

/-- Two layers that disagree about one switch and leave two open, one of them with a toggle in the environment. -/
theorem resolve_layered_disagreeing :
    let model : Switches := { Switches.unset with codeGeneration := some true, clientClass := some false }
    let project : Switches := { Switches.unset with clientClass := some true }
    let env (spoken : String) : Environment := fun name =>
      [(variableNames.clientClass, spoken), (variableNames.clientInterface, " FALSE\n"),
        (variableNames.operationFunction, "on")].lookup name
    let flags := resolve (layered [model, project]) (env "false")
    (LastSets [model, project] .clientClass true ∧ flags.get .clientClass = true) ∧
    (Open [model, project] .clientInterface ∧ flags.get .clientInterface = false) ∧
    (Open [model, project] .operationFunction ∧ flags.get .operationFunction = true) ∧
    resolve (model.overlay project) (env "false") = flags ∧ resolve (layered [model, project]) (env "1") = flags := by
  intro model project env flags
  obtain ⟨hset, hopen, hgrouped, henv, _⟩ := resolve_layered [model, project] (env "false")
  have hclass : LastSets [model, project] .clientClass true := ⟨[model], project, [], rfl, rfl, by simp⟩
  have hinterface : Open [model, project] .clientInterface := by
    simp [Open, model, project, Switches.get, Switches.unset]
  have hfunction : Open [model, project] .operationFunction := by
    simp [Open, model, project, Switches.get, Switches.unset]
  have hcode : flags.get .codeGeneration = true := hset .codeGeneration true ⟨[], model, [project], rfl, rfl, by decide⟩
  have hspoken : ∀ w, Open [model, project] w → env "1" w.variableName = env "false" w.variableName := by
    intro w hw
    cases w with
    | clientClass => exact absurd (hw project (by simp)) (by decide)
    | _ => rfl
  refine ⟨⟨hclass, hset _ _ hclass⟩, ⟨hinterface, ?_⟩, ⟨hfunction, ?_⟩, ?_, henv _ hspoken⟩
  · exact (hopen _ hinterface).1 " FALSE\n" false rfl (by decide)
  · refine ((hopen _ hfunction).2 fun text htext => ?_).trans hcode
    obtain rfl : "on" = text := Option.some.inj htext
    decide
  · exact hgrouped (.stack (.layer model) (.layer project)) rfl

end Flags

end ClientGen
