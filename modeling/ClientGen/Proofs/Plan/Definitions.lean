import ClientGen.Proofs.Plan.Faults
import ClientGen.Proofs.Plan.Names
import Mathlib.Data.List.Induction

/-!
# Groups and routes

The client definitions list the operations of a plan twice, by group and by path. Both lists hold every operation once:
a group has the operations that name it, and a route stands for the operations under its path.
-/

namespace ClientGen.Plan

/-! ## Each item once -/

section Once

variable {α : Type} [DecidableEq α] {items kept : List α}

/-- A list holds the items of another one, each once, in the order in which they first come there. -/
structure OnceInOrder (items kept : List α) : Prop where
  nodup : kept.Nodup
  mem_iff : ∀ a, a ∈ kept ↔ a ∈ items
  ordered : kept.Pairwise fun a b => items.idxOf a < items.idxOf b

theorem onceInOrder_nil : OnceInOrder ([] : List α) [] := ⟨List.nodup_nil, fun _ => Iff.rfl, .nil⟩

theorem idxOf_concat_of_mem {a b : α} (h : a ∈ items) : (items ++ [b]).idxOf a = items.idxOf a :=
  List.idxOf_append_of_mem h

theorem OnceInOrder.pairwise_concat (h : OnceInOrder items kept) (a : α) :
    kept.Pairwise fun b c => (items ++ [a]).idxOf b < (items ++ [a]).idxOf c := by
  refine h.ordered.imp_of_mem fun {b c} hb hc hlt => ?_
  rwa [idxOf_concat_of_mem ((h.mem_iff b).1 hb), idxOf_concat_of_mem ((h.mem_iff c).1 hc)]

theorem OnceInOrder.concat_of_mem {a : α} (h : OnceInOrder items kept) (ha : a ∈ kept) :
    OnceInOrder (items ++ [a]) kept := by
  refine ⟨h.nodup, fun b => ?_, h.pairwise_concat a⟩
  rw [List.mem_append, List.mem_singleton, ← h.mem_iff b]
  exact ⟨.inl, fun hb => hb.elim id fun heq => heq ▸ ha⟩

theorem OnceInOrder.concat_of_notMem {a : α} (h : OnceInOrder items kept) (ha : a ∉ kept) :
    OnceInOrder (items ++ [a]) (kept ++ [a]) := by
  have hnew : a ∉ items := mt (h.mem_iff a).2 ha
  refine ⟨List.concat_eq_append ▸ h.nodup.concat ha, fun b => by simp [h.mem_iff b], ?_⟩
  rw [List.pairwise_append]
  refine ⟨h.pairwise_concat a, List.pairwise_singleton _ _, fun b hb c hc => ?_⟩
  have hb' : b ∈ items := (h.mem_iff b).1 hb
  rw [List.mem_singleton.1 hc, idxOf_concat_of_mem hb', List.idxOf_append_of_notMem hnew, List.idxOf_cons_self]
  exact Nat.lt_of_lt_of_le (List.idxOf_lt_length_of_mem hb') (Nat.le_add_right _ _)

theorem distinctOf_concat (items : List α) (a : α) :
    distinctOf (items ++ [a]) = if a ∈ distinctOf items then distinctOf items else distinctOf items ++ [a] := by
  simp [distinctOf]

theorem onceInOrder_distinctOf (items : List α) : OnceInOrder items (distinctOf items) := by
  induction items using List.reverseRecOn with
  | nil => exact onceInOrder_nil
  | append_singleton items a ih =>
    rw [distinctOf_concat]
    split
    · next ha => exact ih.concat_of_mem ha
    · next ha => exact ih.concat_of_notMem ha

end Once

/-- Of some parameters the first with each name are kept, in order. -/
structure FirstByName (ps kept : List Parameter) : Prop where
  names : OnceInOrder (ps.map Parameter.name) (kept.map Parameter.name)
  first : ∀ p ∈ kept, ps.find? (fun q => q.name == p.name) = some p

theorem distinctParameters_concat (ps : List Parameter) (p : Parameter) :
    distinctParameters (ps ++ [p]) = if p.name ∈ (distinctParameters ps).map Parameter.name then distinctParameters ps
      else distinctParameters ps ++ [p] := by
  simp [distinctParameters]

theorem firstByName_distinctParameters (ps : List Parameter) : FirstByName ps (distinctParameters ps) := by
  induction ps using List.reverseRecOn with
  | nil => exact ⟨onceInOrder_nil, by simp [distinctParameters]⟩
  | append_singleton ps p ih =>
    have hold : ∀ q ∈ distinctParameters ps, (ps ++ [p]).find? (fun r => r.name == q.name) = some q := by
      intro q hq
      rw [List.find?_append, ih.first q hq, Option.some_or]
    rw [distinctParameters_concat]
    split
    · next hp => exact ⟨List.map_append ▸ ih.names.concat_of_mem hp, hold⟩
    · next hp =>
      have hnew : ps.find? (fun r => r.name == p.name) = none := by
        rw [List.find?_eq_none]
        intro r hr heq
        exact hp ((ih.names.mem_iff _).2 (by rw [← eq_of_beq heq]; exact List.mem_map_of_mem hr))
      refine ⟨by simpa using ih.names.concat_of_notMem hp, fun q hq => ?_⟩
      rcases List.mem_append.1 hq with hq | hq
      · exact hold q hq
      · obtain rfl := List.mem_singleton.1 hq
        simp [List.find?_append, hnew]

/-! ## Groups -/

/-- The group of the operations that name it, in order. -/
def namedGroup (ops : List Operation) (group : String) : Group :=
  ⟨group ++ "Operations", some (Text.camel group), ops.filter fun op => groupName? op == some group⟩

/-- The group of the operations that name none, if there are any. -/
def unnamedGroup (ops : List Operation) : List Group :=
  let others := ops.filter fun op => groupName? op == none
  if others = [] then [] else [⟨ungroupedInterface, none, others⟩]

theorem grouped_concat (ops : List Operation) (op : Operation) :
    grouped (ops ++ [op]) = withGrouped (grouped ops) op := by
  simp [grouped_eq_foldl]

/-- The operations by group, written out: the groups in order of first appearance, each with the operations that name
it. -/
theorem entries_grouped (ops : List Operation) :
    (grouped ops).entries = (distinctOf (ops.filterMap groupName?)).map fun g =>
      (g, ops.filter fun op => groupName? op == some g) := by
  induction ops using List.reverseRecOn with
  | nil => rfl
  | append_singleton ops op ih =>
    rw [grouped_concat, withGrouped]
    cases hname : groupName? op with
    | none => simp [ih, hname]
    | some g =>
      have hnodup := (onceInOrder_distinctOf (ops.filterMap groupName?)).nodup
      have hfilter : ∀ k, (ops ++ [op]).filter (fun o => groupName? o == some k) =
          if k = g then ops.filter (fun o => groupName? o == some k) ++ [op]
          else ops.filter fun o => groupName? o == some k := by
        intro k
        by_cases hk : k = g
        · simp [hk, hname]
        · simp [hk, hname, Ne.symm hk]
      simp only [Dict.update, ih, hfilter, List.filterMap_append, List.filterMap_cons, hname, List.filterMap_nil]
      rw [distinctOf_concat]
      split
      · next hg =>
        rw [Dict.write_map_of_mem hg hnodup]
        refine List.map_congr_left fun k _ => ?_
        by_cases hk : k = g
        · simp [hk]
        · simp [hk]
      · next hg =>
        have hkeys : g ∉ ((distinctOf (ops.filterMap groupName?)).map fun k =>
            (k, ops.filter fun o => groupName? o == some k)).map Prod.fst := by
          simpa [Function.comp_def] using hg
        have hempty : ops.filter (fun o => groupName? o == some g) = [] := by
          rw [List.filter_eq_nil_iff]
          intro o ho hog
          refine hg (((onceInOrder_distinctOf _).mem_iff g).2 (List.mem_filterMap.2 ⟨o, ho, eq_of_beq hog⟩))
        rw [Dict.write_of_notMem hkeys, List.map_append]
        congr 1
        · refine List.map_congr_left fun k hk => ?_
          rw [if_neg (ne_of_mem_of_not_mem hk hg)]
        · simp [hempty]

theorem groups_eq (ops : List Operation) :
    groups ops = (distinctOf (ops.filterMap groupName?)).map (namedGroup ops) ++ unnamedGroup ops := by
  have hnone : ∀ op, (groupName? op).isNone = (groupName? op == none) := fun op => by cases groupName? op <;> rfl
  simp only [groups, entries_grouped, List.map_map, unnamedGroup, hnone, List.isEmpty_iff]
  split
  · rw [List.append_nil]
    rfl
  · rfl

/-- Items by class, for classes that each item has one of, are the items in another order. -/
theorem perm_flatMap_filter {α κ : Type} [BEq κ] [LawfulBEq κ] {classOf : α → κ} {classes : List κ}
    (hn : classes.Nodup) {l : List α} (h : ∀ a ∈ l, classOf a ∈ classes) :
    (classes.flatMap fun k => l.filter fun a => classOf a == k).Perm l := by
  induction classes generalizing l with
  | nil => simp [List.eq_nil_iff_forall_not_mem.2 fun a ha => List.not_mem_nil (h a ha)]
  | cons k classes ih =>
    obtain ⟨hk, hn⟩ := List.nodup_cons.1 hn
    have hothers : ∀ k' ∈ classes, (l.filter fun a => !(classOf a == k)).filter (fun a => classOf a == k') =
        l.filter fun a => classOf a == k' := by
      intro k' hk'
      rw [List.filter_filter]
      refine List.filter_congr fun a _ => ?_
      by_cases ha : classOf a = k'
      · simp [ha, ne_of_mem_of_not_mem hk' hk]
      · simp [ha]
    have hrest : (classes.flatMap fun k' => l.filter fun a => classOf a == k').Perm
        (l.filter fun a => !(classOf a == k)) := by
      have hflat := @ih hn (l.filter fun a => !(classOf a == k)) fun a ha => by
        obtain ⟨ha, hne⟩ := List.mem_filter.1 ha
        exact (List.mem_cons.1 (h a ha)).resolve_left (by simpa using hne)
      rwa [List.flatMap_congr hothers] at hflat
    rw [List.flatMap_cons]
    exact (hrest.append_left _).trans (List.filter_append_perm _ l)

/-- The operations by group: the groups in order of first appearance, each with the operations that name it, and behind
them the operations that name none, if there are any. No operation is left out or comes twice. -/
structure GroupsApart (ops : List Operation) (groups : List Group) : Prop where
  inOrder : ∃ names, OnceInOrder (ops.filterMap groupName?) names ∧
    groups = names.map (namedGroup ops) ++ unnamedGroup ops
  perm : (groups.flatMap Group.operations).Perm ops
  one : ∀ op ∈ ops, ∃! g, g ∈ groups ∧ op ∈ g.operations

theorem flatMap_operations_unnamedGroup (ops : List Operation) :
    (unnamedGroup ops).flatMap Group.operations = ops.filter fun op => groupName? op == none := by
  simp only [unnamedGroup]
  split
  · next h => rw [h, List.flatMap_nil]
  · simp

/-- A group that an operation is in is the one that the operation names. -/
theorem eq_of_mem_operations {ops : List Operation} {names : List String} {op : Operation} {g : Group}
    (hg : g ∈ names.map (namedGroup ops) ++ unnamedGroup ops) (hop : op ∈ g.operations) :
    (∃ name, groupName? op = some name ∧ g = namedGroup ops name) ∨
      groupName? op = none ∧ g = ⟨ungroupedInterface, none, ops.filter fun op => groupName? op == none⟩ := by
  rcases List.mem_append.1 hg with hg | hg
  · obtain ⟨name, _, rfl⟩ := List.mem_map.1 hg
    exact .inl ⟨name, by simpa using (List.mem_filter.1 hop).2, rfl⟩
  · simp only [unnamedGroup] at hg
    split at hg
    · cases hg
    · obtain rfl := List.mem_singleton.1 hg
      exact .inr ⟨by simpa using (List.mem_filter.1 hop).2, rfl⟩

theorem groupsApart_groups (ops : List Operation) : GroupsApart ops (groups ops) := by
  have honce := onceInOrder_distinctOf (ops.filterMap groupName?)
  generalize hnames : distinctOf (ops.filterMap groupName?) = names at honce
  have hgroups : groups ops = names.map (namedGroup ops) ++ unnamedGroup ops := hnames ▸ groups_eq ops
  have hperm : ((groups ops).flatMap Group.operations).Perm ops := by
    have hclasses : (names.map some ++ [none]).Nodup := by
      rw [List.nodup_append]
      exact ⟨honce.nodup.map fun _ _ => Option.some.inj, List.nodup_singleton _, by simp⟩
    have hflat : (groups ops).flatMap Group.operations =
        (names.map some ++ [none]).flatMap fun k => ops.filter fun op => groupName? op == k := by
      rw [hgroups, List.flatMap_append, flatMap_operations_unnamedGroup, List.flatMap_append, List.flatMap_map,
        List.flatMap_map, List.flatMap_singleton]
      rfl
    rw [hflat]
    refine perm_flatMap_filter hclasses fun op hop => ?_
    cases hname : groupName? op with
    | none => simp
    | some name => simpa using (honce.mem_iff name).2 (List.mem_filterMap.2 ⟨op, hop, hname⟩)
  refine ⟨⟨names, honce, hgroups⟩, hperm, fun op hop => ?_⟩
  obtain ⟨g, hg, hgop⟩ := List.mem_flatMap.1 (hperm.mem_iff.2 hop)
  refine ⟨g, ⟨hg, hgop⟩, ?_⟩
  rintro g' ⟨hg', hgop'⟩
  rw [hgroups] at hg hg'
  rcases eq_of_mem_operations hg hgop with ⟨name, hname, rfl⟩ | ⟨hname, rfl⟩ <;>
    rcases eq_of_mem_operations hg' hgop' with ⟨name', hname', rfl⟩ | ⟨hname', rfl⟩
  · rw [Option.some.inj (hname.symm.trans hname')]
  · cases hname.symm.trans hname'
  · cases hname.symm.trans hname'
  · rfl

/-! ## Routes -/

section Routes

variable {m : Service.Model} {ops : List Operation} (h : operations m = .ok ops)

/-- The route of a path. Where the model lists no parameters of the path, it has those that the operations there declare
in the path, whether a call or the client binds them, the first with each name. -/
structure RouteOf (ops : List Operation) (e : String × Service.PathEntry) (r : Route) : Prop where
  path : r.path = e.1
  operations : List.Forall₂ PlannedAs (e.2.operations.map (e.1, e.2, ·)) (ops.filter fun op => op.path == e.1)
  methods : OnceInOrder (e.2.operations.map Service.Operation.method) r.methods
  responseTypes : OnceInOrder (e.2.operations.map fun op => op.response.type) r.responseTypes
  parameters : e.2.parameters = [] → FirstByName ((ops.filter fun op => op.path == e.1).flatMap pathParameters)
    r.parameters
  declared : e.2.parameters = [] → ∀ name, name ∈ r.parameters.map Parameter.name ↔
    ∃ op ∈ e.2.operations, ∃ p ∈ op.parameters, p.name = name ∧ Location.parse? p.location = some .path

/-- The path parameters of a planned operation are the parameters that it declares in the path. -/
theorem mem_names_pathParameters_iff {d : Declared} {o : Operation} (hd : PlannedAs d o) {name : String} :
    name ∈ (pathParameters o).map Parameter.name ↔
      ∃ p ∈ d.2.2.parameters, p.name = name ∧ Location.parse? p.location = some .path := by
  obtain ⟨_, shaped, hshaped, rfl⟩ := shapeOperation_eq_ok_iff.1 hd
  have hall := (shapeParameters_eq_ok_iff.1 hshaped).1
  have hslot : ∀ {p : Service.Parameter} {l : Location}, slotAt p l = .path ↔ l = .path := by
    intro p l
    cases l <;> simp [slotAt]
  constructor
  · intro hname
    obtain ⟨q, hq, rfl⟩ := List.mem_map.1 hname
    obtain ⟨hmem, hpath⟩ := List.mem_filter.1 hq
    have hq' : ∃ s ∈ shaped, s.2 = q := by
      rcases List.mem_append.1 hmem with hmem | hmem
      · rcases List.mem_append.1 hmem with hmem | hmem
        · obtain ⟨s, hs, rfl⟩ := List.mem_map.1 hmem
          exact ⟨s, List.mem_of_mem_filter hs, rfl⟩
        · obtain rfl := List.mem_singleton.1 hmem
          cases hpath
      · obtain ⟨s, hs, rfl⟩ := List.mem_map.1 hmem
        exact ⟨s, List.mem_of_mem_filter hs, rfl⟩
    obtain ⟨s, hs, rfl⟩ := hq'
    obtain ⟨p, hp, _, hps⟩ := exists_mem_of_forall₂ hall hs
    obtain ⟨l, hl, heq⟩ := shapeParameter_eq_ok_iff.1 hps
    rw [heq, beq_iff_eq, hslot] at hpath
    exact ⟨p, hp, (name_of_shapeParameter hps).symm, hpath ▸ hl⟩
  · rintro ⟨p, hp, rfl, hl⟩
    obtain ⟨s, hs, hclient, hps⟩ := exists_mem_of_forall₂ hall.flip hp
    obtain ⟨l, hl', heq⟩ := shapeParameter_eq_ok_iff.1 hps
    obtain rfl := Option.some.inj (hl'.symm.trans hl)
    refine List.mem_map.2 ⟨s.2, List.mem_filter.2 ⟨?_, by simp [heq, slotAt]⟩, name_of_shapeParameter hps⟩
    cases hbound : s.1 with
    | true => exact List.mem_append_right _ (List.mem_map_of_mem (List.mem_filter.2 ⟨hs, hbound⟩))
    | false =>
      refine List.mem_append_left _ (List.mem_append_left _ (List.mem_map_of_mem (List.mem_filter.2 ⟨hs, ?_⟩)))
      simp [hbound]

theorem filter_operations {e : String × Service.PathEntry} (he : e ∈ m.paths.entries) :
    m.operations.filter (fun d => d.1 == e.1) = e.2.operations.map (e.1, e.2, ·) := by
  have hnodup := m.paths.nodup
  obtain ⟨before, after, hentries⟩ := List.append_of_mem he
  have hothers : ∀ d ∈ before ++ after, d.1 ≠ e.1 := by
    intro d hd heq
    rw [hentries, List.map_append, List.map_cons, List.nodup_middle, List.nodup_cons, ← List.map_append] at hnodup
    exact hnodup.1 (heq ▸ List.mem_map_of_mem hd)
  have hnone : ∀ entries : List (String × Service.PathEntry), (∀ d ∈ entries, d.1 ≠ e.1) →
      (entries.flatMap fun d => d.2.operations.map (d.1, d.2, ·)).filter (fun d => d.1 == e.1) = [] := by
    intro entries hne
    rw [List.filter_eq_nil_iff]
    intro d hd
    obtain ⟨d', hd', hmem⟩ := List.mem_flatMap.1 hd
    obtain ⟨op, _, rfl⟩ := List.mem_map.1 hmem
    simpa using hne d' hd'
  rw [Service.Model.operations, hentries, List.flatMap_append, List.flatMap_cons, List.filter_append,
    List.filter_append]
  have hbefore := hnone before fun d hd => hothers d (List.mem_append_left _ hd)
  have hafter := hnone after fun d hd => hothers d (List.mem_append_right _ hd)
  simp [hbefore, hafter]

include h

/-- The operations of a plan under a path are those of the model under it. -/
theorem plannedAs_filter {e : String × Service.PathEntry} (he : e ∈ m.paths.entries) :
    List.Forall₂ PlannedAs (e.2.operations.map (e.1, e.2, ·)) (ops.filter fun op => op.path == e.1) := by
  rw [← filter_operations he]
  refine List.rel_filter (fun d o hd => ?_) (operations_eq_ok_iff.1 h).1
  change (d.1 == e.1) = true ↔ (o.path == e.1) = true
  rw [path_of_shapeOperation hd]

theorem routeOf_route {e : String × Service.PathEntry} (he : e ∈ m.paths.entries) :
    RouteOf ops e (route ops e.1 e.2) := by
  have hplanned := plannedAs_filter h he
  have hkept : ∀ {β : Type} {f : Service.Operation → β} {f' : Operation → β},
      (∀ d o, PlannedAs d o → f d.2.2 = f' o) →
        e.2.operations.map f = (ops.filter fun op => op.path == e.1).map f' := by
    intro β f f' hf
    have hforall := hplanned.imp hf
    rw [List.forall₂_map_left_iff] at hforall
    rw [← List.forall₂_eq_eq_eq, List.forall₂_map_left_iff, List.forall₂_map_right_iff]
    exact hforall
  have hparameters : e.2.parameters = [] → (route ops e.1 e.2).parameters =
      distinctParameters ((ops.filter fun op => op.path == e.1).flatMap pathParameters) := by
    intro hnone
    simp [route, hnone]
  refine ⟨rfl, hplanned, ?_, ?_, fun hnone => ?_, fun hnone name => ?_⟩
  · rw [hkept fun d o hd => (method_of_shapeOperation hd).symm]
    exact onceInOrder_distinctOf _
  · rw [hkept fun d o hd => (responseType_of_shapeOperation hd).symm]
    exact onceInOrder_distinctOf _
  · rw [hparameters hnone]
    exact firstByName_distinctParameters _
  · rw [hparameters hnone, (firstByName_distinctParameters _).names.mem_iff, List.map_flatMap, List.mem_flatMap]
    constructor
    · rintro ⟨o, ho, hname⟩
      obtain ⟨d, hd, hdo⟩ := exists_mem_of_forall₂ hplanned ho
      obtain ⟨op, hop, rfl⟩ := List.mem_map.1 hd
      exact ⟨op, hop, (mem_names_pathParameters_iff hdo).1 hname⟩
    · rintro ⟨op, hop, hname⟩
      obtain ⟨o, ho, hdo⟩ := exists_mem_of_forall₂ hplanned.flip (List.mem_map_of_mem hop)
      exact ⟨o, ho, (mem_names_pathParameters_iff hdo).2 hname⟩

theorem forall₂_routeOf : List.Forall₂ (RouteOf ops) (m.paths.entries.filter fun e => !e.2.operations.isEmpty)
    (routes m ops) := by
  rw [routes, List.forall₂_map_right_iff, List.forall₂_same]
  exact fun e he => routeOf_route h (List.mem_of_mem_filter he)

/-- Every operation of a plan is under the path of one route. -/
theorem existsUnique_route {op : Operation} (hop : op ∈ ops) : ∃! r, r ∈ routes m ops ∧ r.path = op.path := by
  obtain ⟨d, hd, shaped, _, rfl⟩ := exists_of_mem_operations h hop
  obtain ⟨e, he, hde⟩ := List.mem_flatMap.1 hd
  obtain ⟨decl, hdecl, rfl⟩ := List.mem_map.1 hde
  have hnonempty : (!e.2.operations.isEmpty) = true := by simp [List.ne_nil_of_mem hdecl]
  refine ⟨route ops e.1 e.2, ⟨List.mem_map_of_mem (List.mem_filter.2 ⟨he, hnonempty⟩), rfl⟩, ?_⟩
  rintro r ⟨hr, hpath⟩
  obtain ⟨e', he', rfl⟩ := List.mem_map.1 hr
  have heq : e' = e := List.inj_on_of_nodup_map m.paths.nodup (List.mem_of_mem_filter he') he hpath
  rw [heq]

end Routes

/-- The client definitions hold every operation of a plan in one group and under one route; the groups and the routes
stand in the order of the model, each with what its operations say. -/
theorem clientDefinitions_spec {m : Service.Model} {ops : List Operation} (h : operations m = .ok ops) :
    GroupsApart ops (clientDefinitions m ops).groups ∧
      List.Forall₂ (RouteOf ops) (m.paths.entries.filter fun e => !e.2.operations.isEmpty)
        (clientDefinitions m ops).routes ∧
      ∀ op ∈ ops, ∃! r, r ∈ (clientDefinitions m ops).routes ∧ r.path = op.path :=
  ⟨groupsApart_groups ops, forall₂_routeOf h, fun _ hop => existsUnique_route h hop⟩

/-- A group of one name in two spellings, a blank one, a path without operations, and a path whose parameters are those
of its operations, one of them bound by the client. -/
def shelves : Service.Model where
  options := things.options
  sourcePath := "src"
  paths :=
    ⟨[("/shelves/\x7bshelf\x7d", ⟨"shelf", some "shelf things", [],
          [⟨"readShelf", .get, none, ⟨"Shelf", []⟩, [⟨"shelf", "string", "path", false, false, none, false⟩], none,
              none⟩,
            ⟨"moveShelf", .post, none, ⟨"Shelf", []⟩,
              [⟨"room", "Room", "Path", true, false, none, false⟩,
                ⟨"shelf", "number", "path", false, false, none, false⟩], none, none⟩]⟩),
        ("/rooms", ⟨"rooms", some " ", [], [⟨"listRooms", .get, none, ⟨"Room", []⟩, [], none, none⟩]⟩),
        ("/empty", ⟨"empty", none, [], []⟩),
        ("/shelves", ⟨"shelves", some "ShelfThings", [],
          [⟨"listShelves", .get, none, ⟨"Shelf", []⟩, [], none, none⟩]⟩)],
      by decide⟩

def plannedShelves : List Operation :=
  match operations shelves with
  | .ok ops => ops
  | .error _ => []

theorem clientDefinitions_spec_shelves :
    let d := clientDefinitions shelves plannedShelves
    operations shelves = .ok plannedShelves ∧ GroupsApart plannedShelves d.groups ∧
      List.Forall₂ (RouteOf plannedShelves) (shelves.paths.entries.filter fun e => !e.2.operations.isEmpty)
        d.routes ∧
      (∀ op ∈ plannedShelves, ∃! r, r ∈ d.routes ∧ r.path = op.path) ∧
      d.groups.map (fun g => (g.interfaceName, g.operations.map Operation.name)) =
        [("ShelfThingsOperations", ["readShelf", "moveShelf", "listShelves"]), ("ClientOperations", ["listRooms"])] ∧
      d.routes.map (fun r => (r.path, r.methods, r.responseTypes)) =
        [("/shelves/\x7bshelf\x7d", [.get, .post], ["Shelf"]), ("/rooms", [.get], ["Room"]),
          ("/shelves", [.get], ["Shelf"])] ∧
      d.routes.head?.map Route.parameters =
        some [⟨"shelf", "string", false, .path⟩, ⟨"room", "Room", false, .path⟩] := by
  have hplan : operations shelves = .ok plannedShelves := rfl
  obtain ⟨hgroups, hroutes, hone⟩ := clientDefinitions_spec hplan
  exact ⟨hplan, hgroups, hroutes, hone, by decide +kernel, by decide +kernel, by decide +kernel⟩

end ClientGen.Plan
