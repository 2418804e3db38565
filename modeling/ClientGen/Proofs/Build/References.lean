import ClientGen.Baseline.Emitter
import ClientGen.Build.Package
import ClientGen.Declarative.Emitter
import ClientGen.Proofs.Imports.Keys
import ClientGen.Proofs.Plan.Operation
import ClientGen.Proofs.Reference.Registry

/-!
# The references of a build

A build registers the key of its client and of each operation under the names that the model gives them. The plan asks
for operations by their planned names, and for the client by the base of its names. The two meet where the model spells
a name as the plan does.
-/

namespace ClientGen

open Reference (Registrable)

variable {σ : Type}

namespace Builder

/-- A registry has a key under the key's own text. -/
def Finds (r : Registry) (key : Reference) : Prop := r.get? key.composite = some key

/-- A build knows the key of its client and the keys of the operations as the model spells them, and no others. -/
theorem finds_references_iff (b : Builder σ) {key : Reference} (hkey : Registrable key) :
    Finds b.references key ↔ key = .client b.model.clientName ∨ ∃ e ∈ b.model.operations, key = .operation e.2.2.name := by
  have hempty : (Generation.ofModel b.model).lookup key.composite = none := rfl
  have hclient := Generation.lookup_createClient_eq_some_iff (g := .ofModel b.model) hkey
  have hall := Generation.lookup_createOperations_eq_some_iff (g := (Generation.ofModel b.model).createClient) hkey
  rw [hclient, hempty] at hall
  refine hall.trans ?_
  rw [or_comm, or_iff_left (Option.some_ne_none key).symm]
  rfl

theorem finds_operation_iff (b : Builder σ) (name : String) :
    Finds b.references (.operation name) ↔ ∃ e ∈ b.model.operations, e.2.2.name = name := by
  rw [finds_references_iff b (.operation name)]
  simp [Reference.operation, Reference.client, eq_comm]

theorem finds_client_iff (b : Builder σ) (name : String) :
    Finds b.references (.client name) ↔ name = b.model.clientName := by
  rw [finds_references_iff b (.client name)]
  simp [Reference.operation, Reference.client]

/-- Which references of the plan a build resolves: that of an operation if some operation of the model is spelled with
just the planned name, so all of them if the model spells its operations as the plan does; that under which the client
class imports its factory if the base of the client's names is the client's name itself. -/
theorem references_spec (b : Builder σ) (p : Progress σ) {ops : List Plan.Operation}
    (h : Plan.operations b.model = .ok ops) :
    let registry := (b.register p).registry
    let names := Plan.ClientNames.ofName b.model.clientName
    (∀ op ∈ ops, Finds registry op.key ↔ ∃ e ∈ b.model.operations, e.2.2.name = op.name) ∧
    ((∀ e ∈ b.model.operations, Plan.operationName e.2.2 = e.2.2.name) → ∀ op ∈ ops, Finds registry op.key) ∧
    (Plan.clientClass b.model ops).imports.Takes Plan.FromSource.apiIndex names.factoryName
      (some (.client names.base)) ∧
    (Finds registry (.client names.base) ↔ names.base = b.model.clientName) := by
  intro registry names
  refine ⟨fun op _ => finds_operation_iff b op.name, fun hspelled op hop => ?_, ?_, finds_client_iff b names.base⟩
  · obtain ⟨e, he, shaped, _, rfl⟩ := Plan.exists_of_mem_operations h hop
    exact (finds_operation_iff b _).2 ⟨e, he, (hspelled e he).symm⟩
  · exact Plan.takes_factory b.model.clientName ops _

theorem references_spec_things :
    let b : Builder Unit := ⟨things, .all true, .default, Declarative.emit.lift, Baseline.emit.lift⟩
    let registry := (b.register ⟨.empty, .empty, ()⟩).registry
    Plan.operations things = .ok plannedThings ∧ Finds registry (.operation "readThing") ∧
      Finds registry (.client "Things") := by
  intro b registry
  obtain ⟨hoperations, _, _, hclient⟩ := references_spec b ⟨.empty, .empty, ()⟩ operations_things
  have hplanned := hoperations _ (List.mem_singleton.2 rfl)
  have hclientName : b.model.clientName = "Things" := by decide
  have hbase : (Plan.ClientNames.ofName "Things").base = "Things" := by decide
  rw [hclientName, hbase] at hclient
  refine ⟨operations_things, hplanned.2 ?_, hclient.2 rfl⟩
  exact ⟨(_, _, readThing), List.mem_singleton.2 rfl, rfl⟩

/-- The model `things` with a name spelled in words and a title that ends in `Client`. -/
def spelledThings : Service.Model where
  options := { Service.Options.default with title := some "Things Client" }
  sourcePath := "src"
  paths := ⟨[("/things/{id}", ⟨"thing", none, [], [{ readThing with name := "read-thing" }]⟩)], by simp⟩

/-- No reference of the plan is found where the model spells its names in another way. -/
theorem references_unresolved :
    let b : Builder Unit := ⟨spelledThings, .all true, .default, Declarative.emit.lift, Baseline.emit.lift⟩
    let registry := (b.register ⟨.empty, .empty, ()⟩).registry
    Plan.operations spelledThings = .ok plannedThings ∧
      (∀ op ∈ plannedThings, registry.get? op.key.composite = none) ∧
      (Plan.clientClass spelledThings plannedThings).imports.Takes Plan.FromSource.apiIndex "createThings"
        (some (.client "Things")) ∧
      registry.get? (Reference.client "Things").composite = none := by
  refine ⟨rfl, ?_, Plan.takes_factory "ThingsClient" plannedThings _, by decide⟩
  rintro op hop
  obtain rfl := List.mem_singleton.1 hop
  decide

end Builder

end ClientGen
