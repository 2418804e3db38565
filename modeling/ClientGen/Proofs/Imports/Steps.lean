import ClientGen.Imports
import ClientGen.Proofs.Dict

/-!
# Import sets by steps

An import set is filled step by step, each step taking one name from one module. Whatever stands in the set was put
there by a step, and a key stays with its name as long as no step gives the name another one.
-/

namespace ClientGen

namespace ImportedNames

theorem mem_write {names : ImportedNames} {name name' : String} {key : Option Reference}
    {f : Option (Option Reference) → Option Reference} (h : (name', key) ∈ names.write name f) :
    (name', key) ∈ names ∨ (name', key) = (name, f none) ∨
      ∃ k, (name, k) ∈ names ∧ (name', key) = (name, f (some k)) := by
  induction names with
  | nil => exact Or.inr (Or.inl (by simpa [write] using h))
  | cons e rest ih =>
    obtain ⟨other, k⟩ := e
    by_cases heq : other = name
    · subst heq
      rw [write, if_pos rfl, List.mem_cons] at h
      rcases h with h | h
      · exact Or.inr (Or.inr ⟨k, List.mem_cons_self, h⟩)
      · exact Or.inl (List.mem_cons_of_mem _ h)
    · by_cases hlt : name < other
      · rw [write, if_neg heq, if_pos hlt, List.mem_cons] at h
        rcases h with h | h
        · exact Or.inr (Or.inl h)
        · exact Or.inl h
      · rw [write, if_neg heq, if_neg hlt, List.mem_cons] at h
        rcases h with h | h
        · exact Or.inl (h ▸ List.mem_cons_self)
        · rcases ih h with h | h | ⟨k', hk, h⟩
          · exact Or.inl (List.mem_cons_of_mem _ h)
          · exact Or.inr (Or.inl h)
          · exact Or.inr (Or.inr ⟨k', List.mem_cons_of_mem _ hk, h⟩)

theorem mem_write_of_ne {names : ImportedNames} {name name' : String} {key : Option Reference}
    {f : Option (Option Reference) → Option Reference} (hne : name' ≠ name) (h : (name', key) ∈ names) :
    (name', key) ∈ names.write name f := by
  induction names with
  | nil => cases h
  | cons e rest ih =>
    obtain ⟨other, k⟩ := e
    by_cases heq : other = name
    · rw [write, if_pos heq]
      rcases List.mem_cons.1 h with h | h
      · cases h
        exact absurd heq hne
      · exact List.mem_cons_of_mem _ h
    · by_cases hlt : name < other
      · rw [write, if_neg heq, if_pos hlt]
        exact List.mem_cons_of_mem _ h
      · rw [write, if_neg heq, if_neg hlt]
        rcases List.mem_cons.1 h with h | h
        · exact h ▸ List.mem_cons_self
        · exact List.mem_cons_of_mem _ (ih h)

theorem mem_write_const (names : ImportedNames) (name : String) (key : Option Reference) :
    (name, key) ∈ names.write name fun _ => key := by
  induction names with
  | nil => simp [write]
  | cons e rest ih =>
    obtain ⟨other, k⟩ := e
    rw [write]
    split
    · next h => simp [h]
    · split
      · exact List.mem_cons_self
      · exact List.mem_cons_of_mem _ ih

end ImportedNames

namespace Imports

/-- A name that is taken from a module, with the key of the declaration that it stands for, if one is given. -/
structure Step where
  module : String
  name : String
  key : Option Reference
  deriving DecidableEq

def take (i : Imports) (s : Step) : Imports :=
  match s.key with
  | none => i.add s.module s.name
  | some key => i.addKeyed s.module s.name key

def takeAll (i : Imports) (steps : List Step) : Imports := steps.foldl take i

@[simp] theorem takeAll_nil (i : Imports) : i.takeAll [] = i := rfl

@[simp] theorem takeAll_cons (i : Imports) (s : Step) (steps : List Step) :
    i.takeAll (s :: steps) = (i.take s).takeAll steps := rfl

theorem takeAll_append (i : Imports) (steps steps' : List Step) :
    i.takeAll (steps ++ steps') = (i.takeAll steps).takeAll steps' := List.foldl_append

/-- Steps made one after the other for the items of a list. -/
theorem takeAll_flatMap {α : Type} (f : α → List Step) (l : List α) (i : Imports) :
    i.takeAll (l.flatMap f) = l.foldl (fun i a => i.takeAll (f a)) i := by
  induction l generalizing i with
  | nil => rfl
  | cons a l ih => rw [List.flatMap_cons, takeAll_append, ih, List.foldl_cons]

theorem takeAll_map {α : Type} (f : α → Step) (l : List α) (i : Imports) :
    i.takeAll (l.map f) = l.foldl (fun i a => i.take (f a)) i := by
  rw [takeAll, List.foldl_map]

/-! ## What stands in a set -/

theorem mem_symbols_iff {i : Imports} {name : String} {key : Option Reference} :
    (name, key) ∈ i.symbols ↔ ∃ module names, (module, names) ∈ i.entries ∧ (name, key) ∈ names := by
  simp [symbols]

/-- A step puts in nothing but its own name. -/
theorem mem_symbols_take {i : Imports} {s : Step} {name : String} {key : Option Reference}
    (h : (name, key) ∈ (i.take s).symbols) : (name, key) ∈ i.symbols ∨ (name, key) = (s.name, s.key) := by
  obtain ⟨f, hf, hnone, hsome⟩ : ∃ f, i.take s = i.write s.module s.name f ∧ f none = s.key ∧
      ∀ k, f (some k) = k ∨ f (some k) = s.key := by
    cases hk : s.key with
    | none => exact ⟨fun k => k.getD none, by rw [take, hk]; rfl, rfl, fun k => Or.inl rfl⟩
    | some k => exact ⟨fun _ => some k, by rw [take, hk]; rfl, rfl, fun _ => Or.inr rfl⟩
  have hkey : ∀ {names : ImportedNames}, (name, key) ∈ names.write s.name f →
      (name, key) ∈ names ∨ (name, key) = (s.name, s.key) := by
    intro names hm
    rcases ImportedNames.mem_write hm with hm | hm | ⟨k, hk, hm⟩
    · exact Or.inl hm
    · exact Or.inr (hnone ▸ hm)
    · rcases hsome k with he | he
      · exact Or.inl (by rw [hm, he]; exact hk)
      · exact Or.inr (he ▸ hm)
  rw [hf] at h
  obtain ⟨module, names, hentry, hname⟩ := mem_symbols_iff.1 h
  rcases Dict.mem_write hentry with hold | hnew | ⟨names', hold, hnew⟩
  · exact Or.inl (mem_symbols_iff.2 ⟨module, names, hold, hname⟩)
  · cases hnew
    rcases hkey hname with hm | hm
    · cases hm
    · exact Or.inr hm
  · cases hnew
    rcases hkey hname with hm | hm
    · exact Or.inl (mem_symbols_iff.2 ⟨s.module, names', hold, hm⟩)
    · exact Or.inr hm

/-- Whatever stands in a set after steps stood there before or comes from one of them. -/
theorem mem_symbols_takeAll {i : Imports} {steps : List Step} {name : String} {key : Option Reference}
    (h : (name, key) ∈ (i.takeAll steps).symbols) :
    (name, key) ∈ i.symbols ∨ ∃ s ∈ steps, (name, key) = (s.name, s.key) := by
  induction steps generalizing i with
  | nil => exact Or.inl h
  | cons s steps ih =>
    rcases ih h with hm | ⟨s', hs, hm⟩
    · rcases mem_symbols_take hm with hm | hm
      · exact Or.inl hm
      · exact Or.inr ⟨s, List.mem_cons_self, hm⟩
    · exact Or.inr ⟨s', List.mem_cons_of_mem _ hs, hm⟩

/-- Every module of a set is that of a step. -/
theorem exists_of_mem_entries_takeAll {i : Imports} {steps : List Step} {module : String} {names : ImportedNames}
    (h : (module, names) ∈ (i.takeAll steps).entries) :
    (∃ names', (module, names') ∈ i.entries) ∨ ∃ s ∈ steps, s.module = module := by
  induction steps generalizing i with
  | nil => exact Or.inl ⟨names, h⟩
  | cons s steps ih =>
    rcases ih h with ⟨names', hm⟩ | ⟨s', hs, hm⟩
    · obtain ⟨f, hf⟩ : ∃ f, i.take s = i.write s.module s.name f := by
        unfold take
        split
        · exact ⟨_, rfl⟩
        · exact ⟨_, rfl⟩
      rw [hf] at hm
      rcases Dict.mem_write hm with hold | hnew | ⟨old, _, hnew⟩
      · exact Or.inl ⟨names', hold⟩
      · exact Or.inr ⟨s, List.mem_cons_self, (congrArg Prod.fst hnew).symm⟩
      · exact Or.inr ⟨s, List.mem_cons_self, (congrArg Prod.fst hnew).symm⟩
    · exact Or.inr ⟨s', List.mem_cons_of_mem _ hs, hm⟩

/-- A set takes a name from a module under a key. -/
def Takes (i : Imports) (module name : String) (key : Option Reference) : Prop :=
  ∃ names, (module, names) ∈ i.entries ∧ (name, key) ∈ names

theorem Takes.mem_symbols {i : Imports} {module name : String} {key : Option Reference}
    (h : i.Takes module name key) : (name, key) ∈ i.symbols := by
  obtain ⟨names, hentry, hname⟩ := h
  exact mem_symbols_iff.2 ⟨module, names, hentry, hname⟩

theorem takes_write_of_ne {i : Imports} {module name module' name' : String} {key : Option Reference}
    {f : Option (Option Reference) → Option Reference} (hne : module' ≠ module ∨ name' ≠ name)
    (h : i.Takes module name key) : (i.write module' name' f).Takes module name key := by
  obtain ⟨names, hentry, hname⟩ := h
  by_cases hmod : module' = module
  · subst hmod
    have hn : name' ≠ name := hne.resolve_left (fun h => h rfl)
    have hfind := Dict.find?_eq_some_of_mem i.modules.nodup hentry
    refine ⟨names.write name' f, ?_, ImportedNames.mem_write_of_ne hn.symm hname⟩
    have hself := Dict.mem_write_self module'
      (fun names : Option ImportedNames => (names.getD []).write name' f) i.modules.entries
    rwa [hfind] at hself
  · exact ⟨names, Dict.mem_write_of_ne (Ne.symm hmod) hentry, hname⟩

theorem takes_addKeyed (i : Imports) (module name : String) (key : Reference) :
    (i.addKeyed module name key).Takes module name (some key) :=
  ⟨_, Dict.mem_write_self module _ i.modules.entries, ImportedNames.mem_write_const _ _ _⟩

/-- A key stays with a name through steps that do not give the name another one. -/
theorem Takes.takeAll {i : Imports} {module name : String} {key : Reference} {steps : List Step}
    (h : i.Takes module name (some key))
    (hsteps : ∀ s ∈ steps, s.module = module → s.name = name → s.key = some key) :
    (i.takeAll steps).Takes module name (some key) := by
  induction steps generalizing i with
  | nil => exact h
  | cons s steps ih =>
    refine ih ?_ fun s' hs => hsteps s' (List.mem_cons_of_mem _ hs)
    by_cases hsame : s.module = module ∧ s.name = name
    · have hkey := hsteps s List.mem_cons_self hsame.1 hsame.2
      rw [take, hkey, hsame.1, hsame.2]
      exact takes_addKeyed i module name key
    · have hne : s.module ≠ module ∨ s.name ≠ name := by
        by_cases hm : s.module = module
        · exact Or.inr fun hn => hsame ⟨hm, hn⟩
        · exact Or.inl hm
      unfold take
      split
      · exact takes_write_of_ne hne h
      · exact takes_write_of_ne hne h

/-- A step with a key leaves its name in the set under that key, unless a later step gives it another one. -/
theorem takes_takeAll {i : Imports} {module name : String} {key : Reference} {steps : List Step}
    (h : ⟨module, name, some key⟩ ∈ steps)
    (hsteps : ∀ s ∈ steps, s.module = module → s.name = name → s.key = some key) :
    (i.takeAll steps).Takes module name (some key) := by
  obtain ⟨before, after, rfl⟩ := List.append_of_mem h
  rw [takeAll_append, takeAll_cons]
  refine Takes.takeAll (takes_addKeyed _ module name key) fun s hs => hsteps s ?_
  exact List.mem_append_right _ (List.mem_cons_of_mem _ hs)

/-! ## Sets with something in them -/

theorem entries_write_ne_nil (i : Imports) (module name : String)
    (f : Option (Option Reference) → Option Reference) : (i.write module name f).entries ≠ [] := by
  have hself := Dict.mem_write_self module
    (fun names : Option ImportedNames => (names.getD []).write name f) i.modules.entries
  exact List.ne_nil_of_mem hself

theorem entries_takeAll_ne_nil (i : Imports) {steps : List Step} (h : steps ≠ []) :
    (i.takeAll steps).entries ≠ [] := by
  rw [← List.dropLast_append_getLast h, takeAll_append, takeAll_cons, takeAll_nil]
  unfold take
  split
  · exact entries_write_ne_nil _ _ _ _
  · exact entries_write_ne_nil _ _ _ _

end Imports

end ClientGen
