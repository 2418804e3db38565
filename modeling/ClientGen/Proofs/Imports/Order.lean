import ClientGen.Proofs.Comparison.Differences
import ClientGen.Proofs.Imports.Contains
import Mathlib.Data.List.Pairwise

/-!
# Names in an import set

An import set has the names of a module in ascending order. A name comes twice in a set only if it is taken from two
modules.
-/

namespace ClientGen

open Comparison (insertOrdered pairwise_insertOrdered)

theorem ImportedNames.map_fst_write (names : ImportedNames) (name : String)
    (f : Option (Option Reference) → Option Reference) :
    (names.write name f).map Prod.fst = insertOrdered name (names.map Prod.fst) := by
  induction names with
  | nil => rfl
  | cons e rest ih =>
    rw [write, List.map_cons, insertOrdered]
    by_cases heq : e.1 = name
    · simp [heq]
    · by_cases hlt : name < e.1
      · simp [heq, Ne.symm heq, hlt]
      · simp [heq, Ne.symm heq, hlt, ih]

namespace Imports

/-- The names of each module are in ascending order. -/
def Ascending (i : Imports) : Prop := ∀ e ∈ i.entries, (e.2.map Prod.fst).Pairwise (· < ·)

theorem Ascending.write {i : Imports} (h : i.Ascending) (module name : String)
    (f : Option (Option Reference) → Option Reference) : (i.write module name f).Ascending := by
  rintro ⟨module', names⟩ he
  rcases Dict.mem_write he with hold | hnew | ⟨before, hold, hnew⟩
  · exact h _ hold
  · obtain ⟨rfl, rfl⟩ := Prod.mk.inj hnew
    simp [ImportedNames.write]
  · obtain ⟨rfl, rfl⟩ := Prod.mk.inj hnew
    rw [Option.getD_some, ImportedNames.map_fst_write]
    exact pairwise_insertOrdered (h _ hold)

theorem Ascending.take {i : Imports} (h : i.Ascending) (s : Step) : (i.take s).Ascending := by
  unfold Imports.take
  split <;> exact h.write _ _ _

theorem ascending_takeAll (steps : List Step) : (empty.takeAll steps).Ascending := by
  have hgeneral : ∀ i : Imports, i.Ascending → (i.takeAll steps).Ascending := by
    induction steps with
    | nil => exact fun _ h => h
    | cons s steps ih => exact fun i h => ih _ (h.take s)
  exact hgeneral empty fun e he => by cases he

theorem contains_iff {i : Imports} {module name : String} :
    i.contains module name = true ↔ ∃ e ∈ i.entries, e.1 = module ∧ name ∈ e.2.map Prod.fst := by
  have hnames : ∀ names : ImportedNames, (names.any fun e => e.1 == name) = true ↔ name ∈ names.map Prod.fst := by
    simp
  rw [contains, Option.any_eq_true]
  constructor
  · rintro ⟨names, hfind, hname⟩
    exact ⟨(module, names), Dict.mem_of_find?_eq_some hfind, rfl, (hnames names).1 hname⟩
  · rintro ⟨⟨_, names⟩, he, rfl, hname⟩
    exact ⟨names, Dict.find?_eq_some_of_mem i.modules.nodup he, (hnames names).2 hname⟩

theorem map_fst_symbols (i : Imports) : i.symbols.map Prod.fst = i.entries.flatMap fun e => e.2.map Prod.fst :=
  List.map_flatMap ..

/-- No name comes twice in a set exactly if none is taken from two modules. -/
theorem nodup_names_iff {i : Imports} (h : i.Ascending) : (i.symbols.map Prod.fst).Nodup ↔
    ∀ module module' name, i.contains module name = true → i.contains module' name = true → module = module' := by
  simp only [map_fst_symbols, List.nodup_flatMap, contains_iff]
  constructor
  · rintro ⟨_, hapart⟩ _ _ name ⟨e, he, rfl, hname⟩ ⟨e', he', rfl, hname'⟩
    have hsymm : Std.Symm (Function.onFun List.Disjoint fun e : String × ImportedNames => e.2.map Prod.fst) :=
      ⟨fun _ _ => List.disjoint_symm⟩
    by_contra hne
    exact hapart.forall he he' (fun heq => hne (congrArg Prod.fst heq)) hname hname'
  · intro hone
    refine ⟨fun e he => (h e he).imp ne_of_lt, i.modules.nodup.of_map.pairwise_of_forall_ne ?_⟩
    intro e he e' he' hne name hname hname'
    refine hne (List.inj_on_of_nodup_map i.modules.nodup he he' ?_)
    exact hone _ _ name ⟨e, he, rfl, hname⟩ ⟨e', he', rfl, hname'⟩

/-- A name is taken from one module only. -/
def OneModule (steps : List Step) : Prop := ∀ s ∈ steps, ∀ s' ∈ steps, s.name = s'.name → s.module = s'.module

theorem nodup_names_takeAll_iff {steps : List Step} :
    ((empty.takeAll steps).symbols.map Prod.fst).Nodup ↔ OneModule steps := by
  rw [nodup_names_iff (ascending_takeAll steps)]
  simp only [contains_takeAll_iff]
  constructor
  · exact fun h s hs s' hs' hname => h _ _ s.name ⟨s, hs, rfl, rfl⟩ ⟨s', hs', rfl, hname.symm⟩
  · rintro h module module' name ⟨s, hs, rfl, rfl⟩ ⟨s', hs', rfl, hname⟩
    exact h s hs s' hs' hname.symm

theorem mem_names_takeAll_iff {steps : List Step} {name : String} :
    name ∈ (empty.takeAll steps).symbols.map Prod.fst ↔ ∃ s ∈ steps, s.name = name := by
  have hcontains : name ∈ (empty.takeAll steps).symbols.map Prod.fst ↔
      ∃ module, (empty.takeAll steps).contains module name = true := by
    simp [map_fst_symbols, contains_iff]
  simp only [hcontains, contains_takeAll_iff]
  constructor
  · rintro ⟨_, s, hs, _, hname⟩
    exact ⟨s, hs, hname⟩
  · rintro ⟨s, hs, hname⟩
    exact ⟨s.module, s, hs, rfl, hname⟩

theorem oneModule_append_iff {steps steps' : List Step} : OneModule (steps ++ steps') ↔
    OneModule steps ∧ OneModule steps' ∧ ∀ s ∈ steps, ∀ s' ∈ steps', s.name = s'.name → s.module = s'.module := by
  simp only [OneModule, List.forall_mem_append]
  constructor
  · rintro ⟨h, h'⟩
    exact ⟨fun s hs => (h s hs).1, fun s hs => (h' s hs).2, fun s hs => (h s hs).2⟩
  · rintro ⟨h, h', hcross⟩
    exact ⟨fun s hs => ⟨h s hs, hcross s hs⟩,
      fun s hs => ⟨fun s' hs' hname => (hcross s' hs' s hs hname.symm).symm, h' s hs⟩⟩

end Imports

end ClientGen
