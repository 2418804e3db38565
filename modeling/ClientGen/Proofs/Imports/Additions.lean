import ClientGen.Proofs.Imports.Order

/-!
# Import sets by additions

An import set is filled by additions in any sequence: of a name, of a name with its key, of several names, of the model
types of a type expression. What it ends up with depends on little of the sequence: on which names are taken from which
modules, on the order in which the modules first come up, and, for the key of a name, on the last addition that gives
one.
-/

namespace ClientGen

open Plan (OnceInOrder distinctOf distinctOf_concat onceInOrder_distinctOf)

/-! ## Looking up a name -/

/-- Names in ascending order are looked up after a write as in a dictionary. -/
theorem ImportedNames.find?_write {names : ImportedNames} (h : (names.map Prod.fst).Pairwise (· < ·))
    (name name' : String) (f : Option (Option Reference) → Option Reference) :
    Dict.find? name' (names.write name f) =
      if name' = name then some (f (Dict.find? name names)) else Dict.find? name' names := by
  induction names with
  | nil =>
    by_cases hname : name' = name
    · simp [write, Dict.find?, hname]
    · simp [write, Dict.find?, hname, Ne.symm hname]
  | cons e rest ih =>
    obtain ⟨other, key⟩ := e
    obtain ⟨hother, hrest⟩ := List.pairwise_cons.1 h
    by_cases heq : other = name
    · subst heq
      by_cases hname : name' = other
      · simp [write, Dict.find?, hname]
      · simp [write, Dict.find?, hname, Ne.symm hname]
    · by_cases hlt : name < other
      · -- The name comes before all others, so it is not among them.
        have hnone : Dict.find? name ((other, key) :: rest) = none := by
          refine Dict.find?_eq_none_of_notMem fun hmem => ?_
          rcases List.mem_cons.1 hmem with hmem | hmem
          · exact heq hmem.symm
          · exact lt_asymm hlt (hother name hmem)
        rw [write, if_neg heq, if_pos hlt, hnone]
        by_cases hname : name' = name
        · simp [Dict.find?, hname]
        · rw [Dict.find?, if_neg (Ne.symm hname), if_neg hname]
      · rw [write, if_neg heq, if_neg hlt, Dict.find?, ih hrest, Dict.find?, Dict.find?, if_neg heq]
        by_cases hname : other = name'
        · rw [if_pos hname, if_pos hname, if_neg (hname ▸ heq)]
        · rw [if_neg hname, if_neg hname]

namespace Imports

/-- The entry of a name of a module, if it has one: the key of the name, if it has one. -/
def keyAt? (i : Imports) (module name : String) : Option (Option Reference) :=
  (i.modules.get? module).bind (Dict.find? name)

theorem keyAt?_write {i : Imports} (h : i.Ascending) (module name module' name' : String)
    (f : Option (Option Reference) → Option Reference) :
    (i.write module name f).keyAt? module' name' =
      if module' = module ∧ name' = name then some (f (i.keyAt? module name)) else i.keyAt? module' name' := by
  rw [keyAt?, write, Dict.get?_update, keyAt?, keyAt?]
  by_cases hmodule : module' = module
  · subst hmodule
    cases hfind : i.modules.get? module' with
    | none =>
      rw [if_pos rfl, Option.bind_some, Option.getD_none, ImportedNames.find?_write List.Pairwise.nil]
      simp [Dict.find?]
    | some names =>
      rw [if_pos rfl, Option.bind_some, Option.getD_some,
        ImportedNames.find?_write (h _ (Dict.mem_of_find?_eq_some hfind))]
      simp
  · simp [hmodule]

theorem takes_iff {i : Imports} (h : i.Ascending) {module name : String} {key : Option Reference} :
    i.Takes module name key ↔ i.keyAt? module name = some key := by
  simp only [keyAt?, Option.bind_eq_some_iff]
  constructor
  · rintro ⟨names, he, hname⟩
    exact ⟨names, Dict.find?_eq_some_of_mem i.modules.nodup he, Dict.find?_eq_some_of_mem ((h _ he).imp ne_of_lt) hname⟩
  · rintro ⟨names, hfind, hname⟩
    exact ⟨names, Dict.mem_of_find?_eq_some hfind, Dict.mem_of_find?_eq_some hname⟩

/-! ## Steps -/

theorem take_eq_write (i : Imports) (s : Step) :
    i.take s = i.write s.module s.name fun old => s.key.or (old.getD none) := by
  unfold take
  cases s.key <;> rfl

/-- The keys that steps give to a name of a module, in order. -/
def keysGiven (steps : List Step) (module name : String) : List Reference :=
  steps.filterMap fun s => if s.module = module ∧ s.name = name then s.key else none

theorem getLast?_keysGiven_concat (steps : List Step) (s : Step) (module name : String) :
    (keysGiven (steps ++ [s]) module name).getLast? =
      if s.module = module ∧ s.name = name then s.key.or (keysGiven steps module name).getLast?
      else (keysGiven steps module name).getLast? := by
  rw [keysGiven, List.filterMap_append, ← keysGiven, List.getLast?_append]
  split
  · next hs => cases hkey : s.key <;> simp [hs, hkey]
  · next hs => simp [hs]

/-- A name of a module is taken by one of the steps. -/
def Named (steps : List Step) (module name : String) : Prop := ∃ s ∈ steps, s.module = module ∧ s.name = name

instance (steps : List Step) (module name : String) : Decidable (Named steps module name) :=
  inferInstanceAs (Decidable (∃ s ∈ steps, s.module = module ∧ s.name = name))

theorem named_concat {steps : List Step} {s : Step} {module name : String} :
    Named (steps ++ [s]) module name ↔ Named steps module name ∨ s.module = module ∧ s.name = name := by
  simp [Named, or_and_right, exists_or]

theorem keysGiven_eq_nil {steps : List Step} {module name : String} (h : ¬Named steps module name) :
    keysGiven steps module name = [] :=
  List.filterMap_eq_nil_iff.2 fun s hs => if_neg fun heq => h ⟨s, hs, heq⟩

/-- What stands at a name after some steps: the last key that they give to it. -/
theorem keyAt?_takeAll (steps : List Step) (module name : String) :
    (empty.takeAll steps).keyAt? module name =
      if Named steps module name then some (keysGiven steps module name).getLast? else none := by
  induction steps using List.reverseRecOn with
  | nil => rfl
  | append_singleton steps s ih =>
    rw [takeAll_append, takeAll_cons, takeAll_nil, take_eq_write, keyAt?_write (ascending_takeAll steps),
      getLast?_keysGiven_concat]
    by_cases hs : s.module = module ∧ s.name = name
    · obtain ⟨rfl, rfl⟩ := hs
      have hlast : ((empty.takeAll steps).keyAt? s.module s.name).getD none =
          (keysGiven steps s.module s.name).getLast? := by
        rw [ih]
        split
        · rfl
        · next hnone => rw [keysGiven_eq_nil hnone, Option.getD_none, List.getLast?_nil]
      rw [if_pos (named_concat.2 (.inr ⟨rfl, rfl⟩)), if_pos ⟨rfl, rfl⟩, if_pos ⟨rfl, rfl⟩, hlast]
    · have hnamed : Named (steps ++ [s]) module name ↔ Named steps module name := by
        rw [named_concat, or_iff_left hs]
      rw [if_neg hs, if_neg fun heq => hs ⟨heq.1.symm, heq.2.symm⟩, ih]
      simp only [hnamed]

/-- The modules of a set stand in the order in which steps first take something from them. -/
theorem moduleNames_takeAll (steps : List Step) :
    (empty.takeAll steps).moduleNames = distinctOf (steps.map Step.module) := by
  induction steps using List.reverseRecOn with
  | nil => rfl
  | append_singleton steps s ih =>
    rw [takeAll_append, takeAll_cons, takeAll_nil, take_eq_write, List.map_append, List.map_singleton,
      distinctOf_concat, ← ih]
    exact Dict.keys_write ..

/-! ## Names without keys -/

/-- A set without the keys of its names. -/
def listing (i : Imports) : List (String × List String) := i.entries.map fun e => (e.1, e.2.map Prod.fst)

theorem statements_eq (i : Imports) : i.statements = i.listing.map fun e => statement e.1 e.2 := by
  simp [statements, listing, List.map_map]

theorem toJson_eq (i : Imports) : i.toJson = .object (i.listing.map fun e => (e.1, .ofStrings e.2)) := by
  simp [toJson, listing, List.map_map]

/-- Sets with the same modules in the same order and the same names in them differ in keys only. -/
theorem listing_eq_of_contains_eq {i i' : Imports} (h : i.Ascending) (h' : i'.Ascending)
    (hmodules : i.moduleNames = i'.moduleNames)
    (hcontains : ∀ module name, i.contains module name = i'.contains module name) : i.listing = i'.listing := by
  have hlookup : ∀ j : Imports, j.listing =
      j.moduleNames.map fun module => (module, ((j.modules.get? module).getD []).map Prod.fst) := by
    intro j
    rw [moduleNames, Dict.keys, List.map_map]
    refine List.map_congr_left fun e he => ?_
    have hfind : j.modules.get? e.1 = some e.2 := Dict.find?_eq_some_of_mem j.modules.nodup he
    rw [Function.comp_apply, hfind, Option.getD_some]
  have hsorted : ∀ {j : Imports}, j.Ascending → ∀ module,
      (((j.modules.get? module).getD []).map Prod.fst).Pairwise (· < ·) := by
    intro j hj module
    cases hfind : j.modules.get? module with
    | none => exact List.Pairwise.nil
    | some names => exact hj _ (Dict.mem_of_find?_eq_some hfind)
  have hmem : ∀ (j : Imports) module name,
      name ∈ ((j.modules.get? module).getD []).map Prod.fst ↔ j.contains module name = true := by
    intro j module name
    rw [contains]
    cases j.modules.get? module <;> simp
  rw [hlookup i, hlookup i', hmodules]
  refine List.map_congr_left fun module _ => congrArg (module, ·) ?_
  refine (hsorted h module).eq_of_mem_iff (hsorted h' module) fun name => ?_
  rw [hmem, hmem, hcontains]

/-! ## Additions -/

/-- An addition to an import set. -/
inductive Addition where
  | add (module name : String)
  | addKeyed (module name : String) (key : Reference)
  | addAll (module : String) (names : List String)
  | addModels (module type : String)
  deriving DecidableEq

def Addition.run (i : Imports) : Addition → Imports
  | .add module name => i.add module name
  | .addKeyed module name key => i.addKeyed module name key
  | .addAll module names => i.addAll module names
  | .addModels module type => i.addModels module type

/-- The names that an addition takes, in order, with the keys that it gives to them. -/
def Addition.steps : Addition → List Step
  | .add module name => [⟨module, name, none⟩]
  | .addKeyed module name key => [⟨module, name, some key⟩]
  | .addAll module names => names.map (⟨module, ·, none⟩)
  | .addModels module type => modelSteps module type

theorem Addition.run_eq (i : Imports) (a : Addition) : a.run i = i.takeAll a.steps := by
  cases a with
  | add module name => rfl
  | addKeyed module name key => rfl
  | addAll module names => exact addAll_eq i module names
  | addModels module type => exact addModels_eq i module type

/-- The set that additions make, from nothing. -/
def ofAdditions (additions : List Addition) : Imports := additions.foldl Addition.run empty

def stepsOf (additions : List Addition) : List Step := additions.flatMap Addition.steps

theorem ofAdditions_eq (additions : List Addition) : ofAdditions additions = empty.takeAll (stepsOf additions) := by
  rw [stepsOf, takeAll_flatMap, ofAdditions]
  exact congrArg (fun run => additions.foldl run empty) (funext fun i => funext fun a => a.run_eq i)

/-- A set has exactly what steps take: the modules in the order in which the steps first name something in them, their
names in ascending order, and at each name the last key that a step gives to it. -/
structure Holding (steps : List Step) (i : Imports) : Prop where
  modules : OnceInOrder (steps.map Step.module) i.moduleNames
  ascending : i.Ascending
  contains_iff : ∀ module name, i.contains module name = true ↔ Named steps module name
  takes_iff : ∀ module name key, i.Takes module name key ↔
    Named steps module name ∧ key = (keysGiven steps module name).getLast?

theorem holding_takeAll (steps : List Step) : Holding steps (empty.takeAll steps) where
  modules := moduleNames_takeAll steps ▸ onceInOrder_distinctOf _
  ascending := ascending_takeAll steps
  contains_iff _ _ := contains_takeAll_iff
  takes_iff module name key := by
    rw [takes_iff (ascending_takeAll steps), keyAt?_takeAll]
    by_cases hnamed : Named steps module name
    · rw [if_pos hnamed, Option.some_inj, and_iff_right hnamed, eq_comm]
    · rw [if_neg hnamed]
      simp [hnamed]

/-- Two lists of steps name the same in the modules, and first come to the modules in the same order. -/
structure SameNames (steps steps' : List Step) : Prop where
  named_iff : ∀ module name, Named steps module name ↔ Named steps' module name
  modules : distinctOf (steps.map Step.module) = distinctOf (steps'.map Step.module)

theorem SameNames.contains_eq {steps steps' : List Step} (h : SameNames steps steps') (module name : String) :
    (empty.takeAll steps).contains module name = (empty.takeAll steps').contains module name := by
  rw [Bool.eq_iff_iff, (holding_takeAll steps).contains_iff, (holding_takeAll steps').contains_iff]
  exact h.named_iff module name

theorem SameNames.listing_eq {steps steps' : List Step} (h : SameNames steps steps') :
    (empty.takeAll steps).listing = (empty.takeAll steps').listing := by
  refine listing_eq_of_contains_eq (ascending_takeAll steps) (ascending_takeAll steps') ?_ h.contains_eq
  rw [moduleNames_takeAll, moduleNames_takeAll, h.modules]

/-- A plain addition of a name leaves the key of the name as it is, and so does one in front of the others. -/
theorem takes_key_of_plain {additions : List Addition} {module name : String} {key : Reference}
    (h : (ofAdditions additions).Takes module name (some key)) :
    (ofAdditions (additions ++ [.add module name])).Takes module name (some key) ∧
      (ofAdditions (.add module name :: additions)).Takes module name (some key) := by
  rw [ofAdditions_eq, (holding_takeAll _).takes_iff] at h
  have hkeep : ∀ additions', Named (stepsOf additions') module name →
      keysGiven (stepsOf additions') module name = keysGiven (stepsOf additions) module name →
      (ofAdditions additions').Takes module name (some key) := by
    intro additions' hnamed hkeys
    rw [ofAdditions_eq, (holding_takeAll _).takes_iff, hkeys]
    exact ⟨hnamed, h.2⟩
  have hstep : (⟨module, name, none⟩ : Step) ∈ Addition.steps (.add module name) := List.mem_singleton_self _
  constructor
  · refine hkeep _ ⟨_, List.mem_flatMap.2 ⟨_, by simp, hstep⟩, rfl, rfl⟩ ?_
    simp [keysGiven, stepsOf, Addition.steps]
  · refine hkeep _ ⟨_, List.mem_flatMap.2 ⟨_, by simp, hstep⟩, rfl, rfl⟩ ?_
    simp [keysGiven, stepsOf, Addition.steps]

/-- A set made by additions holds what they name. The order and the repetition of names in them leave no trace in what
the set contains, in its statements and in its serialization. -/
theorem holding_ofAdditions (additions : List Addition) :
    Holding (stepsOf additions) (ofAdditions additions) ∧
      (∀ module name key, (ofAdditions additions).Takes module name (some key) →
        (ofAdditions (additions ++ [.add module name])).Takes module name (some key) ∧
          (ofAdditions (.add module name :: additions)).Takes module name (some key)) ∧
      ∀ additions', SameNames (stepsOf additions) (stepsOf additions') →
        (∀ module name, (ofAdditions additions).contains module name = (ofAdditions additions').contains module name) ∧
          (ofAdditions additions).statements = (ofAdditions additions').statements ∧
          (ofAdditions additions).toJson = (ofAdditions additions').toJson := by
  refine ⟨ofAdditions_eq additions ▸ holding_takeAll _, fun _ _ _ => takes_key_of_plain, fun additions' h => ?_⟩
  rw [ofAdditions_eq, ofAdditions_eq, statements_eq, statements_eq, toJson_eq, toJson_eq, h.listing_eq]
  exact ⟨h.contains_eq, rfl, rfl⟩

def modelAdditions : List Addition :=
  [.add "./models.js" "Thing", .addModels "./models.js" "Array<Thing> | Gadget", .add "./models.js" "Thing"]

def plainAdditions : List Addition := [.addAll "./models.js" ["Gadget", "Thing", "Gadget"]]

theorem sameNames_modelAdditions : SameNames (stepsOf modelAdditions) (stepsOf plainAdditions) where
  named_iff module name := by
    have hmodel : stepsOf modelAdditions =
        [⟨"./models.js", "Thing", none⟩, ⟨"./models.js", "Thing", some (.model "Thing")⟩,
          ⟨"./models.js", "Gadget", some (.model "Gadget")⟩, ⟨"./models.js", "Thing", none⟩] := by decide +kernel
    have hplain : stepsOf plainAdditions =
        [⟨"./models.js", "Gadget", none⟩, ⟨"./models.js", "Thing", none⟩, ⟨"./models.js", "Gadget", none⟩] := by decide +kernel
    rw [hmodel, hplain]
    simp [Named]
    tauto
  modules := by decide +kernel

theorem holding_ofAdditions_models :
    (ofAdditions modelAdditions).Takes "./models.js" "Thing" (some (.model "Thing")) ∧
      (ofAdditions plainAdditions).Takes "./models.js" "Thing" none ∧
      (ofAdditions modelAdditions).statements = (ofAdditions plainAdditions).statements :=
  ⟨((holding_ofAdditions modelAdditions).1.takes_iff _ _ _).2 ⟨by decide +kernel, by decide +kernel⟩,
    ((holding_ofAdditions plainAdditions).1.takes_iff _ _ _).2 ⟨by decide +kernel, by decide +kernel⟩,
    ((holding_ofAdditions modelAdditions).2.2 plainAdditions sameNames_modelAdditions).2.1⟩

end Imports

end ClientGen
