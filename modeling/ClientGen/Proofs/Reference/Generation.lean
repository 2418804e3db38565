import ClientGen.Proofs.Plan.Definitions
import ClientGen.Proofs.Plan.Operation
import ClientGen.Proofs.Reference.Registry
import Mathlib.Data.Finset.Card
import Mathlib.Data.List.DropRight

/-!
# The registry over the steps of a generation

References are created singly or for all operations of a model, and dropped all at once. After any steps the registry
lists the keys that were created since the last drop, each once, in the order in which they were first created, and it
answers for the texts of these keys and for no other text.
-/

namespace ClientGen

open Plan (OnceInOrder distinctOf distinctOf_concat onceInOrder_distinctOf)
open Reference (Registrable)

/-! ## Registries of keys -/

namespace Registry

/-- A registry lists keys, each once, in the order in which they first come, under its own text. -/
structure Lists (r : Registry) (keys : List Reference) : Prop where
  registrable : ∀ k ∈ keys, Registrable k
  entries : r.entries = (distinctOf keys).map fun k => (k.composite, k)

variable {r : Registry} {keys : List Reference} {key : Reference}

theorem mem_distinctOf_iff {k : Reference} : k ∈ distinctOf keys ↔ k ∈ keys := (onceInOrder_distinctOf keys).mem_iff k

theorem lists_empty : Lists .empty [] := ⟨by simp, rfl⟩

/-- Writing a key under its text rewrites that key alone, since no other has its text. -/
theorem write_keys {kept : List Reference} (h : ∀ k ∈ kept, Registrable k) (hkey : Registrable key) :
    Dict.write key.composite (fun _ => key) (kept.map fun k => (k.composite, k)) =
      (if key ∈ kept then kept else kept ++ [key]).map fun k => (k.composite, k) := by
  have hsame : ∀ k ∈ kept, k.composite = key.composite → k = key := fun k hk => (h k hk).eq_of_composite_eq hkey
  split
  · next hmem =>
    clear h
    induction kept with
    | nil => cases hmem
    | cons k kept ih =>
      by_cases hk : k = key
      · subst hk
        rw [List.map_cons, Dict.write, if_pos rfl]
      · have hne : k.composite ≠ key.composite := fun heq => hk (hsame k List.mem_cons_self heq)
        have hrest : key ∈ kept := (List.mem_cons.1 hmem).resolve_left (Ne.symm hk)
        rw [List.map_cons, Dict.write, if_neg hne, ih (fun k' hk' => hsame k' (List.mem_cons_of_mem _ hk')) hrest]
  · next hnot =>
    have hnew : key.composite ∉ (kept.map fun k => (k.composite, k)).map Prod.fst := by
      rw [List.map_map, List.mem_map]
      rintro ⟨k, hk, heq⟩
      exact hnot (hsame k hk heq ▸ hk)
    rw [Dict.write_of_notMem hnew, List.map_append, List.map_singleton]

namespace Lists

theorem registrable_distinctOf (h : Lists r keys) : ∀ k ∈ distinctOf keys, Registrable k :=
  fun k hk => h.registrable k (mem_distinctOf_iff.1 hk)

theorem insert (h : Lists r keys) (hkey : Registrable key) : Lists (r.insert key.composite key) (keys ++ [key]) where
  registrable := by
    rw [List.forall_mem_append, List.forall_mem_singleton]
    exact ⟨h.registrable, hkey⟩
  entries := by
    rw [distinctOf_concat, ← write_keys h.registrable_distinctOf hkey, ← h.entries]
    rfl

theorem insertAll (h : Lists r keys) {more : List Reference} (hmore : ∀ k ∈ more, Registrable k) :
    Lists (more.foldl (fun r k => r.insert k.composite k) r) (keys ++ more) := by
  induction more generalizing r keys with
  | nil => rwa [List.append_nil]
  | cons k more ih =>
    obtain ⟨hk, hrest⟩ := List.forall_mem_cons.1 hmore
    rw [List.foldl_cons, List.append_cons]
    exact ih (h.insert hk) hrest

/-- A listed key that is registered once more changes nothing. -/
theorem insert_eq (h : Lists r keys) (hkey : key ∈ keys) : r.insert key.composite key = r := by
  refine Dict.ext_entries ?_
  have hwrite := write_keys h.registrable_distinctOf (h.registrable key hkey)
  rw [if_pos (mem_distinctOf_iff.2 hkey), ← h.entries] at hwrite
  exact hwrite

theorem insertAll_eq (h : Lists r keys) {more : List Reference} (hmore : ∀ k ∈ more, k ∈ keys) :
    more.foldl (fun r k => r.insert k.composite k) r = r := by
  induction more with
  | nil => rfl
  | cons k more ih =>
    obtain ⟨hk, hrest⟩ := List.forall_mem_cons.1 hmore
    rw [List.foldl_cons, h.insert_eq hk, ih hrest]

theorem get?_eq_some_iff (h : Lists r keys) {text : String} {k : Reference} :
    r.get? text = some k ↔ k ∈ keys ∧ text = k.composite := by
  have hentry : (text, k) ∈ r.entries ↔ k ∈ keys ∧ text = k.composite := by
    simp only [h.entries, List.mem_map, Prod.mk.injEq, mem_distinctOf_iff]
    constructor
    · rintro ⟨k', hk', rfl, rfl⟩
      exact ⟨hk', rfl⟩
    · rintro ⟨hk, rfl⟩
      exact ⟨k, hk, rfl, rfl⟩
  rw [← hentry]
  exact ⟨Dict.mem_of_find?_eq_some, Dict.find?_eq_some_of_mem r.nodup⟩

theorem size_eq (h : Lists r keys) : r.size = keys.toFinset.card := by
  have hfinset : keys.toFinset = (distinctOf keys).toFinset := by
    ext k
    rw [List.mem_toFinset, List.mem_toFinset, mem_distinctOf_iff]
  rw [hfinset, List.toFinset_card_of_nodup (onceInOrder_distinctOf keys).nodup, Dict.size, h.entries, List.length_map]

end Lists

end Registry

namespace Generation

open Registry (Lists lists_empty)

/-! ## Steps -/

/-- What is done with the references of a generation. -/
inductive Step where
  | createClient
  | createOperation (op : Service.Operation)
  | createOperations
  | clear

namespace Step

def isClear : Step → Bool
  | .clear => true
  | _ => false

/-- The keys that a step creates for a model, in order. -/
def keys (m : Service.Model) : Step → List Reference
  | .createClient => [.client m.clientName]
  | .createOperation op => [.operation op.name]
  | .createOperations => m.operations.map fun (_, _, op) => .operation op.name
  | .clear => []

theorem registrable_keys (m : Service.Model) (step : Step) : ∀ k ∈ step.keys m, Registrable k := by
  cases step with
  | createClient => exact List.forall_mem_singleton.2 (.client _)
  | createOperation op => exact List.forall_mem_singleton.2 (.operation _)
  | createOperations => exact List.forall_mem_map.2 fun e _ => .operation _
  | clear => exact fun k hk => nomatch hk

end Step

def perform (g : Generation) : Step → Generation
  | .createClient => g.createClient
  | .createOperation op => g.createOperation op
  | .createOperations => g.createOperations
  | .clear => g.clear

def performAll (g : Generation) (steps : List Step) : Generation := steps.foldl perform g

/-- The steps behind the last one that drops the references. -/
def sinceClear (steps : List Step) : List Step := steps.rtakeWhile fun step => !step.isClear

/-- The keys that are created by steps and not dropped by a later one, in order. -/
def createdKeys (m : Service.Model) (steps : List Step) : List Reference := (sinceClear steps).flatMap (Step.keys m)

theorem foldl_createOperation (g : Generation) (entries : List (String × Service.PathEntry × Service.Operation)) :
    entries.foldl (fun g (_, _, op) => g.createOperation op) g =
      ⟨g.model, (entries.map fun (_, _, op) => Reference.operation op.name).foldl
        (fun r k => r.insert k.composite k) g.registry⟩ := by
  induction entries generalizing g with
  | nil => rfl
  | cons e entries ih =>
    rw [List.foldl_cons, ih]
    rfl

/-- A step other than the drop registers its keys in order. -/
theorem perform_eq (g : Generation) {step : Step} (h : step.isClear = false) :
    g.perform step = ⟨g.model, (step.keys g.model).foldl (fun r k => r.insert k.composite k) g.registry⟩ := by
  cases step with
  | createClient => rfl
  | createOperation op => rfl
  | createOperations => exact foldl_createOperation g g.model.operations
  | clear => cases h

theorem model_perform (g : Generation) (step : Step) : (g.perform step).model = g.model := by
  cases h : step.isClear with
  | false => rw [perform_eq g h]
  | true =>
    cases step with
    | clear => rfl
    | _ => cases h

theorem model_performAll (g : Generation) (steps : List Step) : (g.performAll steps).model = g.model := by
  induction steps generalizing g with
  | nil => rfl
  | cons step steps ih => exact (ih _).trans (model_perform g step)

/-- What one step makes of the keys that a registry lists. -/
theorem lists_perform {g : Generation} {keys : List Reference} (h : Lists g.registry keys) (step : Step) :
    Lists (g.perform step).registry (if step.isClear then [] else keys ++ step.keys g.model) := by
  cases hclear : step.isClear with
  | false =>
    rw [perform_eq g hclear]
    exact h.insertAll (step.registrable_keys g.model)
  | true =>
    cases step with
    | clear => exact lists_empty
    | _ => cases hclear

/-- After any steps the registry lists the keys created since the last drop. -/
theorem lists_performAll (m : Service.Model) (steps : List Step) :
    Lists ((ofModel m).performAll steps).registry (createdKeys m steps) := by
  induction steps using List.reverseRecOn with
  | nil => exact lists_empty
  | append_singleton steps step ih =>
    have hmodel : ((ofModel m).performAll steps).model = m := model_performAll _ steps
    have hlists := lists_perform ih step
    rw [hmodel] at hlists
    have hrun : (ofModel m).performAll (steps ++ [step]) = ((ofModel m).performAll steps).perform step :=
      List.foldl_append
    have hkeys : createdKeys m (steps ++ [step]) =
        if step.isClear then [] else createdKeys m steps ++ step.keys m := by
      cases hclear : step.isClear <;> simp [createdKeys, sinceClear, hclear]
    rw [hrun, hkeys]
    exact hlists

/-- After any steps on the references of a model: a text is looked up to a key exactly if the key was created since the
last drop and has this text; the registry lists these keys once, in order of first creation; texts tell the keys of
clients and operations apart, whatever their names are; and a step that is repeated leaves the registry as it is. -/
theorem registry_performAll (m : Service.Model) (steps : List Step) :
    let g := (ofModel m).performAll steps
    let created := createdKeys m steps
    (∀ text k, g.lookup text = some k ↔ k ∈ created ∧ text = k.composite) ∧
    (∃ kept, OnceInOrder created kept ∧ g.registry.entries = kept.map fun k => (k.composite, k)) ∧
    g.registry.size = created.toFinset.card ∧
    (∀ title name, (Reference.client title).composite ≠ (Reference.operation name).composite) ∧
    (∀ name name', (Reference.operation name).composite = (Reference.operation name').composite ↔ name = name') ∧
    ∀ step ∈ sinceClear steps, g.perform step = g := by
  intro g created
  have hlists : Lists g.registry created := lists_performAll m steps
  refine ⟨fun text k => hlists.get?_eq_some_iff, ⟨_, onceInOrder_distinctOf created, hlists.entries⟩, hlists.size_eq,
    fun title name heq => ?_, fun name name' => ⟨fun heq => ?_, fun heq => heq ▸ rfl⟩, fun step hstep => ?_⟩
  · have hkind := congrArg Reference.kind (Registrable.eq_of_composite_eq (.client title) (.operation name) heq)
    cases hkind
  · have hparts := congrArg Reference.parts (Registrable.eq_of_composite_eq (.operation name) (.operation name') heq)
    exact (List.cons.inj hparts).1
  · have hclear : step.isClear = false := by simpa using List.mem_rtakeWhile_imp hstep
    have hmodel : g.model = m := model_performAll _ steps
    have hcreated : ∀ k ∈ step.keys g.model, k ∈ created := fun k hk =>
      List.mem_flatMap.2 ⟨step, hstep, hmodel ▸ hk⟩
    rw [perform_eq g hclear, hlists.insertAll_eq hcreated]

theorem registry_performAll_things :
    let colons : Service.Operation := { readThing with name := "a:b" }
    let steps := [.createOperations, .clear, .createOperation colons, .createClient, .createOperations, .createClient]
    let g := (ofModel things).performAll steps
    .createOperations ∈ sinceClear steps ∧ g.perform .createOperations = g ∧
      g.lookup "operation:a:b" = some (.operation "a:b") ∧ g.registry.size = 3 := by
  intro colons steps g
  obtain ⟨hlookup, _, hsize, _, _, hrepeat⟩ := registry_performAll things steps
  have hmem : .createOperations ∈ sinceClear steps := by simp [steps, sinceClear, List.rtakeWhile, Step.isClear]
  have hcreated : createdKeys things steps =
      [.operation "a:b", .client "Things", .operation "readThing", .client "Things"] := by decide
  refine ⟨hmem, hrepeat _ hmem, (hlookup _ _).2 ⟨?_, rfl⟩, hsize.trans ?_⟩
  · simp [hcreated]
  · rw [hcreated]
    decide

end Generation

end ClientGen
