import ClientGen.Proofs.Emission.Failure
import ClientGen.Proofs.Plan.Definitions
import ClientGen.Proofs.Plan.OptionsTypes

/-!
# The interfaces of client definitions

Each group of operations has an interface. A group that is called `Client` has the one that the operations without a
group have. The client reaches a group through a property, whose name is the name of the group put into camel case
anew; groups with interfaces apart may share it.
-/

namespace ClientGen

open Plan (Group Operation groupName? groups)

variable {m : Service.Model} {ops : List Operation}

namespace Plan

/-! ## Interfaces -/

/-- The names of the groups of a plan, in order of first appearance. -/
def groupNames (ops : List Operation) : List String := distinctOf (ops.filterMap groupName?)

theorem nodup_groupNames (ops : List Operation) : (groupNames ops).Nodup := (onceInOrder_distinctOf _).nodup

theorem mem_groupNames_iff {name : String} : name ∈ groupNames ops ↔ ∃ op ∈ ops, groupName? op = some name := by
  rw [groupNames, (onceInOrder_distinctOf _).mem_iff, List.mem_filterMap]

theorem unnamedGroup_of_all_named (h : ∀ op ∈ ops, groupName? op ≠ none) : unnamedGroup ops = [] := by
  simpa [unnamedGroup] using h

theorem unnamedGroup_of_unnamed (h : ∃ op ∈ ops, groupName? op = none) :
    unnamedGroup ops = [⟨ungroupedInterface, none, ops.filter fun op => groupName? op == none⟩] := by
  simpa [unnamedGroup] using h

theorem mem_map_operations_iff {names : List String} {name : String} :
    name ++ "Operations" ∈ names.map (· ++ "Operations") ↔ name ∈ names := by
  simp

theorem nodup_map_operations {names : List String} (h : names.Nodup) : (names.map (· ++ "Operations")).Nodup := by
  refine h.map fun a b hab => ?_
  simpa [← String.toList_inj] using hab

theorem interfaceNames_groups (ops : List Operation) : (groups ops).map Group.interfaceName =
    (groupNames ops).map (· ++ "Operations") ++ (unnamedGroup ops).map Group.interfaceName := by
  rw [groups_eq, List.map_append, List.map_map]
  rfl

/-- Two interfaces of a plan have one name exactly if a group is called `Client` besides operations without a group. -/
theorem nodup_interfaceNames_iff : ((groups ops).map Group.interfaceName).Nodup ↔
    ¬ ((∃ op ∈ ops, groupName? op = some "Client") ∧ ∃ op ∈ ops, groupName? op = none) := by
  have hnamed := nodup_map_operations (nodup_groupNames ops)
  rw [interfaceNames_groups]
  by_cases hunnamed : ∃ op ∈ ops, groupName? op = none
  · have hone : (unnamedGroup ops).map Group.interfaceName = ["Client" ++ "Operations"] := by
      rw [unnamedGroup_of_unnamed hunnamed]
      rfl
    rw [hone, ← List.concat_eq_append, List.nodup_concat, mem_map_operations_iff, mem_groupNames_iff]
    simp [hnamed, hunnamed]
  · have hnone : unnamedGroup ops = [] :=
      unnamedGroup_of_all_named fun op hop hname => hunnamed ⟨op, hop, hname⟩
    simp [hnone, hnamed, hunnamed]

theorem interfaceName_of_mem_groups {g : Group} (h : g ∈ groups ops) :
    ∃ name, g.interfaceName = name ++ "Operations" := by
  have hmem := List.mem_map_of_mem (f := Group.interfaceName) h
  rw [interfaceNames_groups, List.mem_append] at hmem
  rcases hmem with hmem | hmem
  · obtain ⟨name, _, hname⟩ := List.mem_map.1 hmem
    exact ⟨name, hname.symm⟩
  · refine ⟨"Client", ?_⟩
    obtain ⟨g', hg', hname⟩ := List.mem_map.1 hmem
    simp only [unnamedGroup] at hg'
    split at hg'
    · cases hg'
    · obtain rfl := List.mem_singleton.1 hg'
      exact hname.symm

/-- Groups that the client reaches through a property have interfaces apart. -/
theorem nodup_reached_interfaceNames (ops : List Operation) :
    (((groups ops).filter fun g => g.property.isSome).map Group.interfaceName).Nodup := by
  have hnamed : ((groupNames ops).map (namedGroup ops)).filter (fun g => g.property.isSome) =
      (groupNames ops).map (namedGroup ops) := by
    rw [List.filter_eq_self, List.forall_mem_map]
    exact fun _ _ => rfl
  have hunnamed : (unnamedGroup ops).filter (fun g => g.property.isSome) = [] := by
    simp only [unnamedGroup]
    split <;> rfl
  rw [groups_eq, List.filter_append, hunnamed, List.append_nil, ← groupNames, hnamed, List.map_map]
  exact nodup_map_operations (nodup_groupNames ops)

/-- No interface of a group is that of the routes or the type of the client. -/
theorem interfaceName_ne_of_mem_groups {g : Group} (h : g ∈ groups ops) (client : String) :
    g.interfaceName ≠ "Routes" ∧ g.interfaceName ≠ (ClientNames.ofName client).contextType := by
  obtain ⟨name, hname⟩ := interfaceName_of_mem_groups h
  rw [hname, contextType_ofName]
  exact ⟨append_ne (by decide), Text.append_ne_append (by decide) (by decide) _ _⟩

/-! ## Properties -/

theorem properties_groups (ops : List Operation) :
    (groups ops).filterMap Group.property = (groupNames ops).map Text.camel := by
  have hunnamed : (unnamedGroup ops).filterMap Group.property = [] := by
    simp only [unnamedGroup]
    split <;> rfl
  rw [groups_eq, List.filterMap_append, hunnamed, List.append_nil, List.filterMap_map]
  exact congrFun List.filterMap_eq_map _

/-- The names of groups are still apart when they are put into Pascal case again. -/
def GroupsKept (ops : List Operation) : Prop :=
  ∀ g ∈ groupNames ops, ∀ g' ∈ groupNames ops, Text.pascal g = Text.pascal g' → g = g'

theorem nodup_properties_iff (hcase : ∀ g ∈ groupNames ops, ∀ c, Text.initial? g = some c → Text.TwoCased c) :
    ((groups ops).filterMap Group.property).Nodup ↔ GroupsKept ops := by
  rw [properties_groups, List.nodup_map_iff_inj_on (nodup_groupNames ops)]
  have hiff : ∀ g ∈ groupNames ops, ∀ g' ∈ groupNames ops, Text.camel g = Text.camel g' ↔
      Text.pascal g = Text.pascal g' :=
    fun g hg g' hg' => (Text.pascal_eq_pascal_iff (hcase g hg) (hcase g' hg')).symm
  exact forall₂_congr fun g hg => forall₂_congr fun g' hg' => imp_congr_left (hiff g hg g' hg')

/-- A name of ASCII letters and digits, a capital first, in which every further capital begins a word. -/
def Proper (name : String) : Prop :=
  Text.Ascii name.toList ∧ name.toList.head?.any Text.isUpper = true ∧ Text.humped .upper name.toList.tail = true

instance : DecidablePred Proper := fun _ => inferInstanceAs (Decidable (_ ∧ _))

theorem pascal_of_proper {name : String} (h : Proper name) : Text.pascal name = name := by
  obtain ⟨hascii, hhead, hhumped⟩ := h
  obtain ⟨c, rest, hcons⟩ : ∃ c rest, name.toList = c :: rest := by
    cases hlist : name.toList with
    | nil => simp [hlist] at hhead
    | cons c rest => exact ⟨c, rest, rfl⟩
  rw [hcons] at hhead hhumped
  exact (Text.pascal_eq_self_iff hascii hcons (by simpa using hhead)).2 hhumped

end Plan

open Plan (groupNames GroupsKept Proper)

/-! ## What holds of the client definitions -/

/-- No interface of a group is called like another interface or type of the client definitions. Two groups share an
interface exactly if one of them is called `Client` and the other holds the operations without a group; the definitions
then cannot be emitted as a tree. The groups with a property have interfaces apart. Their properties are apart exactly
if the names of the groups are when they are put into Pascal case again; so they are where every capital in them begins
a word. -/
theorem interfaces_spec (h : Plan.operations m = .ok ops) :
    let d := Plan.clientDefinitions m ops
    (∀ g ∈ d.groups, g.interfaceName ≠ "Routes" ∧ g.interfaceName ≠ d.names.contextType) ∧
      ((d.groups.map Group.interfaceName).Nodup ↔
        ¬ ((∃ op ∈ ops, groupName? op = some "Client") ∧ ∃ op ∈ ops, groupName? op = none)) ∧
      (¬ (d.groups.map Group.interfaceName).Nodup → ∃ e, Declarative.emit (.clientDefinitions d) = .error e) ∧
      ((d.groups.filter fun g => g.property.isSome).map Group.interfaceName).Nodup ∧
      ((∀ g ∈ groupNames ops, ∀ c, Text.initial? g = some c → Text.TwoCased c) →
        ((d.groups.filterMap Group.property).Nodup ↔ GroupsKept ops)) ∧
      ((∀ g ∈ groupNames ops, Proper g) → (d.groups.filterMap Group.property).Nodup) := by
  have hcase : (∀ g ∈ groupNames ops, Proper g) →
      ∀ g ∈ groupNames ops, ∀ c, Text.initial? g = some c → Text.TwoCased c :=
    fun hproper g hg c hc => Plan.twoCased_of_initial? (hproper g hg).1 hc
  refine ⟨fun g hg => Plan.interfaceName_ne_of_mem_groups hg _, Plan.nodup_interfaceNames_iff, fun hshared => ?_,
    Plan.nodup_reached_interfaceNames ops, Plan.nodup_properties_iff, fun hproper => ?_⟩
  · refine (exists_emit_eq_error_iff h List.mem_cons_self).2 fun hnames => hshared (hnames.sublist ?_)
    exact ((List.sublist_cons_self _ _).trans (List.sublist_append_right _ _)).trans (List.sublist_append_left _ _)
  · refine (Plan.nodup_properties_iff (hcase hproper)).2 fun g hg g' hg' heq => ?_
    rwa [Plan.pascal_of_proper (hproper g hg), Plan.pascal_of_proper (hproper g' hg')] at heq

/-- Operations with the given names, each in a group and under a path of its own, and a client with shortcuts. -/
def boxes (named : List (String × String)) : Service.Model where
  options := { things.options with includeShortcuts := true }
  sourcePath := "src"
  paths := .ofList (named.map fun (name, group) =>
    ("/" ++ name, ⟨name, some group, [], [⟨name, .get, none, ⟨"Thing", []⟩, [], none, none⟩]⟩))

def plannedBoxes (named : List (String × String)) : List Operation :=
  match Plan.operations (boxes named) with
  | .ok ops => ops
  | .error _ => []

theorem operations_boxes : Plan.operations (boxes [("readBox", "big boxes"), ("readLid", "lids"), ("find", "")]) =
    .ok (plannedBoxes [("readBox", "big boxes"), ("readLid", "lids"), ("find", "")]) := rfl

theorem interfaces_spec_boxes :
    let ops := plannedBoxes [("readBox", "big boxes"), ("readLid", "lids"), ("find", "")]
    let d := Plan.clientDefinitions (boxes [("readBox", "big boxes"), ("readLid", "lids"), ("find", "")]) ops
    (d.groups.map Group.interfaceName).Nodup ∧ (d.groups.filterMap Group.property).Nodup ∧
      d.shortcuts =
        ["\x7b bigBoxes: BigBoxesOperations \x7d", "\x7b lids: LidsOperations \x7d", "ClientOperations"] := by
  have hproper : ∀ g ∈ groupNames (plannedBoxes [("readBox", "big boxes"), ("readLid", "lids"), ("find", "")]),
      Proper g := by
    decide +kernel
  obtain ⟨_, hinterfaces, _, _, _, hproperties⟩ := interfaces_spec operations_boxes
  exact ⟨hinterfaces.2 (by decide +kernel), hproperties hproper, by decide +kernel⟩

/-- One interface for a group called `Client` and for no group, and one property for two groups. -/
theorem interfaces_shared :
    let ops := plannedBoxes [("readBox", "client"), ("find", "")]
    let d := Plan.clientDefinitions (boxes [("readBox", "client"), ("find", "")]) ops
    let ops' := plannedBoxes [("readNet", "i-p"), ("readInk", "ip")]
    let d' := Plan.clientDefinitions (boxes [("readNet", "i-p"), ("readInk", "ip")]) ops'
    Plan.operations (boxes [("readBox", "client"), ("find", "")]) = .ok ops ∧
      d.groups.map Group.interfaceName = ["ClientOperations", "ClientOperations"] ∧
      ¬ (d.groups.map Group.interfaceName).Nodup ∧
      Declarative.emit (.clientDefinitions d) =
        .error (.render "`ClientOperations` is declared more than once in the same file") ∧
      Plan.operations (boxes [("readNet", "i-p"), ("readInk", "ip")]) = .ok ops' ∧
      ¬ (d'.groups.filterMap Group.property).Nodup ∧
      d'.shortcuts = ["\x7b ip: IPOperations \x7d", "\x7b ip: IpOperations \x7d"] := by
  exact ⟨rfl, by decide +kernel, by decide +kernel, by decide +kernel, rfl, by decide +kernel, by decide +kernel⟩

end ClientGen
