import ClientGen.Proofs.Dict
import ClientGen.Reference.Registry

/-!
# What a registry knows

A generation registers the keys of its client and of operations. The texts of such keys tell them apart, whatever
characters are in the names, so that a key is found under its text exactly if it was registered.
-/

namespace ClientGen

namespace Reference

/-- The keys that a generation registers. -/
inductive Registrable : Reference → Prop where
  | client (name : String) : Registrable (.client name)
  | operation (name : String) : Registrable (.operation name)

theorem composite_client (name : String) : (client name).composite = "client:" ++ name := by
  simp [composite, client, Kind.name, colonParts, ← String.append_assoc]

theorem composite_operation (name : String) : (operation name).composite = "operation:" ++ name := by
  simp [composite, operation, Kind.name, colonParts, ← String.append_assoc]

/-- Keys with one text are one key. -/
theorem Registrable.eq_of_composite_eq {k k' : Reference} (h : k.Registrable) (h' : k'.Registrable)
    (heq : k.composite = k'.composite) : k = k' := by
  cases h <;> cases h' <;>
    simp only [composite_client, composite_operation, ← String.toList_inj, String.toList_append] at heq
  · exact congrArg Reference.client (String.toList_inj.1 (List.append_cancel_left heq))
  · simp at heq
  · simp at heq
  · exact congrArg Reference.operation (String.toList_inj.1 (List.append_cancel_left heq))

end Reference

namespace Generation

open Reference (Registrable)

variable {g : Generation} {key k : Reference}

/-- A key that is registered is found from then on, and what was found before is found still. -/
theorem lookup_register_eq_some_iff (hkey : Registrable key) (hk : Registrable k) :
    (g.register key).lookup k.composite = some k ↔ k = key ∨ g.lookup k.composite = some k := by
  have hlookup : (g.register key).lookup k.composite =
      if k.composite = key.composite then some key else g.lookup k.composite := Dict.get?_insert _ _ _ _
  rw [hlookup]
  by_cases h : k.composite = key.composite
  · rw [if_pos h]
    exact iff_of_true (congrArg some (hk.eq_of_composite_eq hkey h).symm) (Or.inl (hk.eq_of_composite_eq hkey h))
  · rw [if_neg h]
    have hne : k ≠ key := fun heq => h (congrArg Reference.composite heq)
    simp [hne]

theorem lookup_createClient_eq_some_iff (hk : Registrable k) :
    g.createClient.lookup k.composite = some k ↔ k = .client g.model.clientName ∨ g.lookup k.composite = some k :=
  lookup_register_eq_some_iff (.client _) hk

theorem lookup_foldl_createOperation (hk : Registrable k)
    (entries : List (String × Service.PathEntry × Service.Operation)) :
    (entries.foldl (fun g e => g.createOperation e.2.2) g).lookup k.composite = some k ↔
      (∃ e ∈ entries, k = .operation e.2.2.name) ∨ g.lookup k.composite = some k := by
  induction entries generalizing g with
  | nil => simp
  | cons e rest ih =>
    have hstep : (g.createOperation e.2.2).lookup k.composite = some k ↔
        k = .operation e.2.2.name ∨ g.lookup k.composite = some k := lookup_register_eq_some_iff (.operation _) hk
    rw [List.foldl_cons, ih, hstep, List.exists_mem_cons_iff]
    exact or_left_comm.trans or_assoc.symm

theorem lookup_createOperations_eq_some_iff (hk : Registrable k) :
    g.createOperations.lookup k.composite = some k ↔
      (∃ e ∈ g.model.operations, k = .operation e.2.2.name) ∨ g.lookup k.composite = some k :=
  lookup_foldl_createOperation hk g.model.operations

end Generation

end ClientGen
