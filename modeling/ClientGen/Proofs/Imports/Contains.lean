import ClientGen.Proofs.Imports.Plan
import ClientGen.Proofs.Plan.Definitions
import ClientGen.Proofs.Text.Search

/-!
# What an import set contains

An import set contains the names that its steps take, and no others. Among the names for a type expression are all its
maximal runs of identifier characters that begin like a type and are not built in.
-/

namespace ClientGen

/-! ## Names of steps -/

theorem ImportedNames.any_write (names : ImportedNames) (name other : String)
    (f : Option (Option Reference) → Option Reference) :
    ((names.write name f).any fun e => e.1 == other) = (name == other || names.any fun e => e.1 == other) := by
  induction names with
  | nil => simp [write]
  | cons e rest ih =>
    rw [write]
    split
    · next heq => simp [heq]
    · split
      · simp
      · simp only [List.any_cons, ih]
        exact Bool.or_left_comm ..

namespace Imports

theorem contains_write (i : Imports) (module name module' name' : String)
    (f : Option (Option Reference) → Option Reference) :
    (i.write module name f).contains module' name' =
      (module == module' && name == name' || i.contains module' name') := by
  rw [contains, write, Dict.get?_update, contains]
  by_cases hmodule : module = module'
  · subst hmodule
    cases i.modules.get? module with
    | none => simp [ImportedNames.any_write]
    | some names => simp [ImportedNames.any_write]
  · simp [hmodule, Ne.symm hmodule]

theorem contains_take (i : Imports) (s : Step) (module name : String) :
    (i.take s).contains module name = (s.module == module && s.name == name || i.contains module name) := by
  unfold take
  split <;> exact contains_write ..

/-- A set that is filled by steps contains what they take. -/
theorem contains_takeAll_iff {steps : List Step} {module name : String} :
    (empty.takeAll steps).contains module name = true ↔ ∃ s ∈ steps, s.module = module ∧ s.name = name := by
  have hgeneral : ∀ i : Imports, (i.takeAll steps).contains module name = true ↔
      (∃ s ∈ steps, s.module = module ∧ s.name = name) ∨ i.contains module name = true := by
    induction steps with
    | nil => simp
    | cons s steps ih =>
      intro i
      rw [takeAll_cons, ih, contains_take]
      simp only [Bool.or_eq_true, Bool.and_eq_true, beq_iff_eq, List.exists_mem_cons_iff]
      rw [or_left_comm, or_assoc]
  rw [hgeneral]
  simp [contains, empty, Dict.empty, Dict.get?, Dict.find?]

/-- A set has all names that some steps take. -/
def Holds (i : Imports) (steps : List Step) : Prop := ∀ s ∈ steps, i.contains s.module s.name = true

theorem holds_takeAll (steps : List Step) : (empty.takeAll steps).Holds steps :=
  fun s hs => contains_takeAll_iff.2 ⟨s, hs, rfl, rfl⟩

section Holds

variable {i : Imports}

theorem Holds.mono {steps steps' : List Step} (h : i.Holds steps) (hsub : ∀ s ∈ steps', s ∈ steps) : i.Holds steps' :=
  fun s hs => h s (hsub s hs)

theorem holds_append {steps steps' : List Step} : i.Holds (steps ++ steps') ↔ i.Holds steps ∧ i.Holds steps' :=
  List.forall_mem_append

theorem holds_flatMap {α : Type} {f : α → List Step} {l : List α} :
    i.Holds (l.flatMap f) ↔ ∀ a ∈ l, i.Holds (f a) := by
  simp only [Holds, List.mem_flatMap]
  exact ⟨fun h a ha s hs => h s ⟨a, ha, hs⟩, fun h s ⟨a, ha, hs⟩ => h a ha s hs⟩

theorem holds_map {α : Type} {f : α → Step} {l : List α} :
    i.Holds (l.map f) ↔ ∀ a ∈ l, i.contains (f a).module (f a).name = true := List.forall_mem_map

end Holds

end Imports

/-! ## Runs of identifier characters -/

/-- A maximal run of identifier characters in a text. -/
def IsRun (run text : String) : Prop :=
  ∃ before after : List Char, text.toList = before ++ run.toList ++ after ∧ (∀ c ∈ run.toList, isTypeChar c = true) ∧
    (∀ c ∈ before.getLast?, isTypeChar c = false) ∧ ∀ c ∈ after.head?, isTypeChar c = false

theorem isRun_self {text : String} (h : ∀ c ∈ text.toList, isTypeChar c = true) : IsRun text text :=
  ⟨[], [], by simp, h, by simp, by simp⟩

/-- The runs of a part of a text that is set off by other characters are runs of the text. -/
theorem IsRun.inside {run text before after : String} (h : IsRun run text)
    (hbefore : ∀ c ∈ before.toList.getLast?, isTypeChar c = false)
    (hafter : ∀ c ∈ after.toList.head?, isTypeChar c = false) : IsRun run (before ++ text ++ after) := by
  obtain ⟨b, a, htext, hrun, hb, ha⟩ := h
  refine ⟨before.toList ++ b, a ++ after.toList, by simp [htext], hrun, fun c hc => ?_, fun c hc => ?_⟩
  · rw [List.getLast?_append, Option.mem_def, Option.or_eq_some_iff] at hc
    rcases hc with hc | ⟨_, hc⟩
    · exact hb c hc
    · exact hbefore c hc
  · rw [List.head?_append, Option.mem_def, Option.or_eq_some_iff] at hc
    rcases hc with hc | ⟨_, hc⟩
    · exact ha c hc
    · exact hafter c hc

/-- A text that is cut at all other characters is cut into its runs. -/
theorem IsRun.mem_cut {run text : String} (h : IsRun run text) :
    run.toList ∈ Text.cut (fun c => !isTypeChar c) text.toList := by
  obtain ⟨before, after, htext, hrun, hbefore, hafter⟩ := h
  have huncut : ∀ c ∈ run.toList, (!isTypeChar c) = false := fun c hc => by rw [hrun c hc]; rfl
  have hfirst : run.toList ∈ Text.cut (fun c => !isTypeChar c) (run.toList ++ after) := by
    cases after with
    | nil => simp [Text.cut_of_uncut huncut]
    | cons d after =>
      have hd : (!isTypeChar d) = true := by rw [hafter d rfl]; rfl
      rw [Text.cut_append huncut hd]
      exact List.mem_cons_self
  rw [htext, List.append_assoc]
  rcases List.eq_nil_or_concat before with rfl | ⟨b, c, rfl⟩
  · exact hfirst
  · have hc : (!isTypeChar c) = true := by rw [hbefore c (by simp)]; rfl
    rw [List.concat_eq_append, List.append_assoc, List.singleton_append, Text.cut_append_cons hc]
    exact List.mem_append_right _ hfirst

theorem referencedTypes_eq (type : String) : referencedTypes type = Plan.distinctOf
    (((Text.cut (fun c => !isTypeChar c) type.toList).map String.ofList).filter isModelType) := rfl

/-- A run that begins like a type is built in or among the model types of its text. -/
theorem IsRun.mem_referencedTypes {run text : String} (h : IsRun run text)
    (hupper : run.toList.head?.any Char.isUpper = true) : run ∈ builtinTypes ∨ run ∈ referencedTypes text := by
  by_cases hbuiltin : run ∈ builtinTypes
  · exact .inl hbuiltin
  · rw [referencedTypes_eq, (Plan.onceInOrder_distinctOf _).mem_iff]
    refine .inr (List.mem_filter.2 ⟨List.mem_map.2 ⟨run.toList, h.mem_cut, ?_⟩, ?_⟩)
    · exact String.ofList_toList
    · simp [isModelType, hupper, hbuiltin]

end ClientGen
