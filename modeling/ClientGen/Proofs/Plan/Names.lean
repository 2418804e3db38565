import ClientGen.Plan.ClientDefinitions
import ClientGen.Proofs.Dict
import ClientGen.Proofs.Plan.Operation
import ClientGen.Proofs.Text.Search
import ClientGen.Proofs.Text.Words

/-!
# Names of a plan

The names that a plan makes of the words of a model, for the client, its operations and their groups, hold only name
characters.
-/

namespace ClientGen.Plan

theorem mem_of_mem_clientBase {name : String} {c : Char} (h : c ∈ (clientBase name).toList) : c ∈ name.toList := by
  unfold clientBase at h
  split at h
  · next base hbase =>
    split at h
    · exact h
    · rw [Text.before?_eq_some_iff.1 hbase]
      simp [h]
  · exact h

theorem base_ofName (client : String) : (ClientNames.ofName client).base = clientBase (Text.pascal client) := by
  simp only [ClientNames.ofName]

theorem className_ofName (client : String) :
    (ClientNames.ofName client).className = (ClientNames.ofName client).base ++ "Client" := by
  simp only [ClientNames.ofName]

theorem factoryName_ofName (client : String) :
    (ClientNames.ofName client).factoryName = "create" ++ (ClientNames.ofName client).base := by
  simp only [ClientNames.ofName]

theorem contextType_ofName (client : String) :
    (ClientNames.ofName client).contextType = (ClientNames.ofName client).base ++ "Context" := by
  simp only [ClientNames.ofName]

theorem optionalParamsType_ofName (client : String) :
    (ClientNames.ofName client).optionalParamsType = (ClientNames.ofName client).base ++ "ClientOptionalParams" := by
  simp only [ClientNames.ofName]

theorem mem_pascal_of_mem_base {client : String} {c : Char} (h : c ∈ (ClientNames.ofName client).base.toList) :
    c ∈ (Text.pascal client).toList :=
  mem_of_mem_clientBase (base_ofName client ▸ h)

/-- The base of a client's names is made of name characters. -/
theorem isNameChar_of_mem_base {client : String} {c : Char} (hc : c ∈ (ClientNames.ofName client).base.toList) :
    Text.isNameChar c :=
  Text.isNameChar_of_mem_pascal (mem_pascal_of_mem_base hc)

/-! ## What a plan keeps once -/

/-- Items that are kept unless they are known come from the items. -/
theorem mem_foldl_unless {α : Type} {known : List α → α → Bool} {items seen : List α} {a : α}
    (h : a ∈ items.foldl (fun seen a => if known seen a then seen else seen ++ [a]) seen) : a ∈ seen ∨ a ∈ items := by
  induction items generalizing seen with
  | nil => exact .inl h
  | cons b items ih =>
    rw [List.foldl_cons] at h
    rcases ih h with hseen | hitem
    · split at hseen
      · exact .inl hseen
      · rcases List.mem_append.1 hseen with hseen | hb
        · exact .inl hseen
        · exact .inr (List.mem_singleton.1 hb ▸ List.mem_cons_self)
    · exact .inr (List.mem_cons_of_mem _ hitem)

theorem mem_of_mem_distinctParameters {ps : List Parameter} {p : Parameter} (h : p ∈ distinctParameters ps) :
    p ∈ ps := by
  rcases @mem_foldl_unless Parameter (fun seen p => seen.any fun q => q.name == p.name) ps [] p h with hnil | hp
  · cases hnil
  · exact hp

/-! ## Operations and their groups -/

theorem isNameChar_of_mem_name {m : Service.Model} {ops : List Operation} (h : operations m = .ok ops) {o : Operation}
    (ho : o ∈ ops) {c : Char} (hc : c ∈ o.name.toList) : Text.isNameChar c := by
  obtain ⟨e, _, shaped, _, rfl⟩ := exists_of_mem_operations h ho
  exact Text.isNameChar_of_mem_camel hc

theorem isNameChar_of_groupName? {op : Operation} {group : String} (h : groupName? op = some group) {c : Char}
    (hc : c ∈ group.toList) : Text.isNameChar c := by
  obtain ⟨g, _, rfl⟩ := Option.map_eq_some_iff.1 h
  exact Text.isNameChar_of_mem_pascal hc

/-- A group is named after an operation of the plan, and holds operations of the plan. -/
structure GroupsOf (ops : List Operation) (e : String × List Operation) : Prop where
  name : ∃ op ∈ ops, groupName? op = some e.1
  members : ∀ op ∈ e.2, op ∈ ops

/-- The groups with one more operation, in the group that it names. -/
def withGrouped (d : Dict String (List Operation)) (op : Operation) : Dict String (List Operation) :=
  match groupName? op with
  | some g => d.update g fun ops => ops.getD [] ++ [op]
  | none => d

theorem grouped_eq_foldl (ops : List Operation) : grouped ops = ops.foldl withGrouped .empty := rfl

theorem groupsOf_withGrouped {ops : List Operation} {d : Dict String (List Operation)}
    (hd : ∀ e ∈ d.entries, GroupsOf ops e) {op : Operation} (hop : op ∈ ops) :
    ∀ e ∈ (withGrouped d op).entries, GroupsOf ops e := by
  unfold withGrouped
  split
  · next g hname =>
    rintro ⟨k, members⟩ he
    rcases Dict.mem_write he with hold | hnew | ⟨before, hold, hnew⟩
    · exact hd _ hold
    · obtain ⟨rfl, rfl⟩ := Prod.mk.inj hnew
      exact ⟨⟨op, hop, hname⟩, by simpa using hop⟩
    · obtain ⟨rfl, rfl⟩ := Prod.mk.inj hnew
      refine ⟨⟨op, hop, hname⟩, fun o ho => ?_⟩
      rcases List.mem_append.1 ho with ho | ho
      · exact (hd _ hold).members o ho
      · exact List.mem_singleton.1 ho ▸ hop
  · exact hd

theorem groupsOf_of_mem_grouped {ops : List Operation} : ∀ e ∈ (grouped ops).entries, GroupsOf ops e := by
  have hfold : ∀ (rest : List Operation) (d : Dict String (List Operation)), (∀ op ∈ rest, op ∈ ops) →
      (∀ e ∈ d.entries, GroupsOf ops e) → ∀ e ∈ (rest.foldl withGrouped d).entries, GroupsOf ops e := by
    intro rest
    induction rest with
    | nil => exact fun d _ hd => hd
    | cons op rest ih =>
      intro d hrest hd
      obtain ⟨hop, hrest⟩ := List.forall_mem_cons.1 hrest
      exact ih _ hrest (groupsOf_withGrouped hd hop)
  rw [grouped_eq_foldl]
  exact hfold ops .empty (fun op hop => hop) (by simp [Dict.empty])

/-- A group with names of name characters that holds operations of the plan. -/
structure Group.OfPlan (ops : List Operation) (g : Group) : Prop where
  interfaceName : ∀ c ∈ g.interfaceName.toList, Text.isNameChar c
  property : ∀ property, g.property = some property → ∀ c ∈ property.toList, Text.isNameChar c
  operations : ∀ op ∈ g.operations, op ∈ ops

theorem ofPlan_of_mem_groups {ops : List Operation} {g : Group} (h : g ∈ groups ops) : g.OfPlan ops := by
  have hnamed : ∀ g ∈ (grouped ops).entries.map fun e => (⟨e.1 ++ "Operations", some (Text.camel e.1), e.2⟩ : Group),
      g.OfPlan ops := by
    rw [List.forall_mem_map]
    intro e he
    obtain ⟨⟨op, _, hname⟩, hmembers⟩ := groupsOf_of_mem_grouped e he
    refine ⟨fun c hc => ?_, fun property hproperty c hc => ?_, hmembers⟩
    · rw [String.toList_append, List.mem_append] at hc
      rcases hc with hc | hc
      · exact isNameChar_of_groupName? hname hc
      · exact List.all_eq_true.1 (by decide : "Operations".toList.all Text.isNameChar = true) c hc
    · obtain rfl := Option.some.inj hproperty
      exact Text.isNameChar_of_mem_camel hc
  unfold groups at h
  simp only at h
  split at h
  · exact hnamed g h
  · rcases List.mem_append.1 h with h | h
    · exact hnamed g h
    · obtain rfl := List.mem_singleton.1 h
      have hname : ungroupedInterface.toList.all Text.isNameChar = true := by decide
      exact ⟨List.all_eq_true.1 hname, by simp, fun op hop => List.mem_of_mem_filter hop⟩

end ClientGen.Plan
