import ClientGen.Plan.Operation
import ClientGen.Proofs.Result
import Mathlib.Data.List.Nodup

/-!
# When a model can be planned

Planning goes through the operations of a model and through the parameters of each. It succeeds exactly if every item
can be planned on its own and no name comes twice; the plan then has one item for each.
-/

namespace ClientGen.Plan

/-! ## Parameters -/

theorem shapeParameter_eq_ok_iff {operation : String} {p : Service.Parameter} {q : Parameter} :
    shapeParameter operation p = .ok q ↔ ∃ l, Location.parse? p.location = some l ∧
      q = { name := p.name, type := p.type, optional := p.optional && l != .path, slot := slotAt p l } := by
  unfold shapeParameter
  cases Location.parse? p.location with
  | none => simp
  | some l => simp [eq_comm]

/-- A declared parameter with what it is planned as. -/
def ShapedAs (operation : String) (p : Service.Parameter) (s : Bool × Parameter) : Prop :=
  s.1 = p.onClient ∧ shapeParameter operation p = .ok s.2

theorem shapeParameters_cons_eq_ok_iff {operation : String} {seen : List String} {p : Service.Parameter}
    {ps : List Service.Parameter} {shaped : List (Bool × Parameter)} :
    shapeParameters operation seen (p :: ps) = .ok shaped ↔
      (p.name ∉ seen ∧ p.name ∉ reservedNames) ∧ ∃ q others, shapeParameter operation p = .ok q ∧
        shapeParameters operation (p.name :: seen) ps = .ok others ∧ shaped = (p.onClient, q) :: others := by
  have hcond : (seen.contains p.name || reservedNames.contains p.name) = true ↔
      ¬ (p.name ∉ seen ∧ p.name ∉ reservedNames) := by
    simp [or_iff_not_imp_left]
  rw [shapeParameters]
  by_cases hname : p.name ∉ seen ∧ p.name ∉ reservedNames
  · rw [if_neg (mt hcond.1 (not_not.2 hname))]
    simp [bind_eq_ok_iff, hname, @eq_comm _ shaped]
  · rw [if_pos (hcond.2 hname)]
    simp [hname]

theorem shapeParameters_eq_ok_iff {operation : String} {seen : List String} {ps : List Service.Parameter}
    {shaped : List (Bool × Parameter)} :
    shapeParameters operation seen ps = .ok shaped ↔
      List.Forall₂ (ShapedAs operation) ps shaped ∧ (ps.map Service.Parameter.name).Nodup ∧
        ∀ p ∈ ps, p.name ∉ seen ∧ p.name ∉ reservedNames := by
  induction ps generalizing seen shaped with
  | nil => simp [shapeParameters, eq_comm]
  | cons p ps ih =>
    simp only [shapeParameters_cons_eq_ok_iff, ih, List.map_cons, List.nodup_cons, List.forall_mem_cons]
    constructor
    · rintro ⟨hp, q, others, hq, ⟨hall, hnodup, hnames⟩, rfl⟩
      refine ⟨.cons ⟨rfl, hq⟩ hall, ⟨?_, hnodup⟩, hp, fun p' hp' => ⟨?_, (hnames p' hp').2⟩⟩
      · intro hmem
        obtain ⟨p', hp', heq⟩ := List.mem_map.1 hmem
        exact (hnames p' hp').1 (heq ▸ List.mem_cons_self)
      · exact fun hmem => (hnames p' hp').1 (List.mem_cons_of_mem _ hmem)
    · rintro ⟨hall, ⟨hfresh, hnodup⟩, hp, hnames⟩
      cases hall with
      | cons hq hall =>
        obtain ⟨hclient, hq⟩ := hq
        refine ⟨hp, _, _, hq, ⟨hall, hnodup, fun p' hp' => ⟨?_, (hnames p' hp').2⟩⟩, by rw [← hclient]⟩
        rw [List.mem_cons, not_or]
        exact ⟨fun heq => hfresh (heq ▸ List.mem_map_of_mem hp'), (hnames p' hp').1⟩

/-! ## Operations -/

theorem shapeOperation_eq_ok_iff {path : String} {group : Option String} {op : Service.Operation} {o : Operation} :
    shapeOperation path group op = .ok o ↔ Text.isBlankText op.name = false ∧
      ∃ shaped, shapeParameters (operationName op) [] op.parameters = .ok shaped ∧
        o = plannedOperation (operationName op) path group op shaped := by
  unfold shapeOperation
  cases Text.isBlankText op.name with
  | true => simp
  | false => simp [bind_eq_ok_iff, @eq_comm _ o]

/-- A declared operation, under its path and with what is said about the path, and what it is planned as. -/
def PlannedAs (e : String × Service.PathEntry × Service.Operation) (o : Operation) : Prop :=
  shapeOperation e.1 e.2.1.group e.2.2 = .ok o

theorem lookup_isSome_iff {seen : List (String × String)} {name : String} :
    (seen.lookup name).isSome ↔ name ∈ seen.map Prod.fst := by
  rw [List.lookup_isSome_iff, List.mem_map]
  refine exists_congr fun e => and_congr_right fun _ => ?_
  rw [beq_iff_eq, eq_comm]

theorem shapeOperations_cons_eq_ok_iff {seen : List (String × String)}
    {e : String × Service.PathEntry × Service.Operation} {rest : List (String × Service.PathEntry × Service.Operation)}
    {ops : List Operation} :
    shapeOperations seen (e :: rest) = .ok ops ↔ ∃ o others, PlannedAs e o ∧ o.name ∉ seen.map Prod.fst ∧
      shapeOperations ((o.name, e.1) :: seen) rest = .ok others ∧ ops = o :: others := by
  obtain ⟨path, entry, op⟩ := e
  simp only [shapeOperations, bind_eq_ok_iff, PlannedAs]
  refine exists_congr fun o => ?_
  cases hlookup : seen.lookup o.name with
  | some first =>
    have hmem : o.name ∈ seen.map Prod.fst := lookup_isSome_iff.1 (by simp [hlookup])
    simp [hmem]
  | none =>
    have hmem : o.name ∉ seen.map Prod.fst := mt lookup_isSome_iff.2 (by simp [hlookup])
    simp only [bind_eq_ok_iff, Except.ok.injEq, hmem, not_false_iff, true_and]
    constructor
    · rintro ⟨ho, others, hothers, rfl⟩
      exact ⟨others, ho, hothers, rfl⟩
    · rintro ⟨others, ho, hothers, rfl⟩
      exact ⟨ho, others, hothers, rfl⟩

theorem shapeOperations_eq_ok_iff {seen : List (String × String)}
    {entries : List (String × Service.PathEntry × Service.Operation)} {ops : List Operation} :
    shapeOperations seen entries = .ok ops ↔
      List.Forall₂ PlannedAs entries ops ∧ (ops.map Operation.name).Nodup ∧
        ∀ o ∈ ops, o.name ∉ seen.map Prod.fst := by
  induction entries generalizing seen ops with
  | nil =>
    rw [shapeOperations, Except.ok.injEq, List.forall₂_nil_left_iff]
    constructor
    · rintro rfl
      simp
    · exact fun h => h.1.symm
  | cons e rest ih =>
    simp only [shapeOperations_cons_eq_ok_iff, ih, List.map_cons]
    constructor
    · rintro ⟨o, others, ho, hfresh, ⟨hall, hnodup, hnames⟩, rfl⟩
      refine ⟨.cons ho hall, List.nodup_cons.2 ⟨?_, hnodup⟩, ?_⟩
      · intro hmem
        obtain ⟨o', ho', heq⟩ := List.mem_map.1 hmem
        exact hnames o' ho' (heq ▸ List.mem_cons_self)
      · rw [List.forall_mem_cons]
        exact ⟨hfresh, fun o' ho' hmem => hnames o' ho' (List.mem_cons_of_mem _ hmem)⟩
    · rintro ⟨hall, hnodup, hnames⟩
      cases hall with
      | cons ho hall =>
        rw [List.map_cons, List.nodup_cons] at hnodup
        rw [List.forall_mem_cons] at hnames
        refine ⟨_, _, ho, hnames.1, ⟨hall, hnodup.2, fun o' ho' => ?_⟩, rfl⟩
        rw [List.mem_cons, not_or]
        exact ⟨fun heq => hnodup.1 (heq ▸ List.mem_map_of_mem ho'), hnames.2 o' ho'⟩

/-- A model can be planned exactly if each of its operations can and their names differ. -/
theorem operations_eq_ok_iff {m : Service.Model} {ops : List Operation} :
    operations m = .ok ops ↔ List.Forall₂ PlannedAs m.operations ops ∧ (ops.map Operation.name).Nodup := by
  simp [operations, shapeOperations_eq_ok_iff]

end ClientGen.Plan

namespace ClientGen

def readThing : Service.Operation where
  name := "readThing"
  method := .get
  description := some "Reads a thing."
  response := ⟨"Thing", []⟩
  parameters := [⟨"id", "string", "path", false, false, none, false⟩]
  longRunning := none
  paging := none

/-- A small model, on which general statements are tried. -/
def things : Service.Model where
  options := { Service.Options.default with title := some "Things" }
  sourcePath := "src"
  paths := ⟨[("/things/\x7bid\x7d", ⟨"thing", none, [], [readThing]⟩)], by simp⟩

def plannedThings : List Plan.Operation :=
  [Plan.plannedOperation "readThing" "/things/\x7bid\x7d" none readThing [(false, ⟨"id", "string", false, .path⟩)]]

theorem operations_things : Plan.operations things = .ok plannedThings :=
  Plan.operations_eq_ok_iff.2 ⟨.cons rfl .nil, List.nodup_singleton _⟩

end ClientGen

namespace ClientGen.Plan

/-! ## What is known of a planned operation -/

/-- Every planned operation comes from an operation of the model. -/
theorem exists_of_mem_operations {m : Service.Model} {ops : List Operation} (h : operations m = .ok ops)
    {o : Operation} (ho : o ∈ ops) : ∃ e ∈ m.operations, ∃ shaped,
      shapeParameters (operationName e.2.2) [] e.2.2.parameters = .ok shaped ∧
        o = plannedOperation (operationName e.2.2) e.1 e.2.1.group e.2.2 shaped := by
  obtain ⟨e, he, hplan⟩ := exists_mem_of_forall₂ (operations_eq_ok_iff.1 h).1 ho
  exact ⟨e, he, (shapeOperation_eq_ok_iff.1 hplan).2⟩

theorem isOptions_of_shapeParameter {operation : String} {p : Service.Parameter} {q : Parameter}
    (h : shapeParameter operation p = .ok q) : q.isOptions = false := by
  obtain ⟨l, _, rfl⟩ := shapeParameter_eq_ok_iff.1 h
  cases l <;> rfl

theorem name_of_shapeParameter {operation : String} {p : Service.Parameter} {q : Parameter}
    (h : shapeParameter operation p = .ok q) : q.name = p.name := by
  obtain ⟨l, _, rfl⟩ := shapeParameter_eq_ok_iff.1 h
  rfl

/-- Parameters picked out by who binds them are still planned one by one. -/
theorem shaped_filter {operation : String} {ps : List Service.Parameter} {shaped : List (Bool × Parameter)}
    (h : List.Forall₂ (ShapedAs operation) ps shaped) {keep : Service.Parameter → Bool}
    {keep' : Bool × Parameter → Bool} (hkeep : ∀ p s, s.1 = p.onClient → keep p = keep' s) :
    List.Forall₂ (fun p q => shapeParameter operation p = .ok q) (ps.filter keep)
      ((shaped.filter keep').map Prod.snd) := by
  rw [List.forall₂_map_right_iff]
  refine (List.rel_filter (fun p s hps => ?_) h).imp fun p s hps => hps.2
  exact Bool.eq_iff_iff.1 (hkeep p s hps.1)

section Shaped

variable {path : String} {group : Option String} {decl : Service.Operation} {o : Operation}
  (h : shapeOperation path group decl = .ok o)
include h

theorem shaped_clientParameters : List.Forall₂ (fun p q => shapeParameter (operationName decl) p = .ok q)
    (decl.parameters.filter fun p => p.onClient) o.clientParameters := by
  obtain ⟨_, shaped, hshaped, rfl⟩ := shapeOperation_eq_ok_iff.1 h
  exact shaped_filter (shapeParameters_eq_ok_iff.1 hshaped).1 fun p s hs => hs.symm

theorem shaped_parameters : ∃ perCall, o.parameters = perCall ++ [.options o.optionsType] ∧
    List.Forall₂ (fun p q => shapeParameter (operationName decl) p = .ok q)
      (decl.parameters.filter fun p => !p.onClient) perCall := by
  obtain ⟨_, shaped, hshaped, rfl⟩ := shapeOperation_eq_ok_iff.1 h
  exact ⟨_, rfl, shaped_filter (shapeParameters_eq_ok_iff.1 hshaped).1 fun p s hs => congrArg not hs.symm⟩

theorem path_of_shapeOperation : o.path = path := by
  obtain ⟨_, shaped, _, rfl⟩ := shapeOperation_eq_ok_iff.1 h
  rfl

theorem method_of_shapeOperation : o.method = decl.method := by
  obtain ⟨_, shaped, _, rfl⟩ := shapeOperation_eq_ok_iff.1 h
  rfl

theorem responseType_of_shapeOperation : o.responseType = decl.response.type := by
  obtain ⟨_, shaped, _, rfl⟩ := shapeOperation_eq_ok_iff.1 h
  rfl

theorem optionsType_of_shapeOperation : o.optionsType = optionsTypeOf o.name := by
  obtain ⟨_, shaped, _, rfl⟩ := shapeOperation_eq_ok_iff.1 h
  rfl

theorem nodup_names_of_shapeOperation : (decl.parameters.map Service.Parameter.name).Nodup := by
  obtain ⟨_, shaped, hshaped, _⟩ := shapeOperation_eq_ok_iff.1 h
  exact (shapeParameters_eq_ok_iff.1 hshaped).2.1

end Shaped

/-- The parameters of a planned operation end with the one bag of options. -/
structure Operation.Regular (o : Operation) : Prop where
  optionsType : o.optionsType = optionsTypeOf o.name
  parameters : ∃ perCall, o.parameters = perCall ++ [.options o.optionsType] ∧ ∀ p ∈ perCall, p.isOptions = false

theorem regular_of_shapeOperation {path : String} {group : Option String} {decl : Service.Operation} {o : Operation}
    (h : shapeOperation path group decl = .ok o) : o.Regular := by
  obtain ⟨perCall, hparameters, hshaped⟩ := shaped_parameters h
  refine ⟨optionsType_of_shapeOperation h, perCall, hparameters, fun q hq => ?_⟩
  obtain ⟨p, _, hp⟩ := exists_mem_of_forall₂ hshaped hq
  exact isOptions_of_shapeParameter hp

theorem regular_of_mem_operations {m : Service.Model} {ops : List Operation} (h : operations m = .ok ops)
    {o : Operation} (ho : o ∈ ops) : o.Regular := by
  obtain ⟨e, _, hplan⟩ := exists_mem_of_forall₂ (operations_eq_ok_iff.1 h).1 ho
  exact regular_of_shapeOperation hplan

namespace Operation.Regular

variable {o : Operation}

theorem parameters_ne_nil (h : o.Regular) : o.parameters ≠ [] := by
  obtain ⟨perCall, hp, _⟩ := h.parameters
  simp [hp]

theorem optionsParameter?_eq (h : o.Regular) : o.optionsParameter? = some (.options o.optionsType) := by
  obtain ⟨perCall, hp, hnot⟩ := h.parameters
  rw [Operation.optionsParameter?, hp, List.find?_append, List.find?_eq_none.2 (by simpa using hnot)]
  rfl

theorem options_mem (h : o.Regular) : "options" ∈ o.argumentNames := by
  obtain ⟨perCall, hp, _⟩ := h.parameters
  simp [Operation.argumentNames, hp, Parameter.options]

end Operation.Regular

/-- Every parameter of a model that travels in the body has a name. -/
def NamesBodies (m : Service.Model) : Prop :=
  ∀ e ∈ m.operations, ∀ p ∈ e.2.2.parameters, Location.parse? p.location = some .body → p.name ≠ ""

theorem name_ne_of_mem_parametersAt_body {m : Service.Model} (hm : NamesBodies m) {ops : List Operation}
    (h : operations m = .ok ops) {o : Operation} (ho : o ∈ ops) {p : Parameter} (hp : p ∈ o.parametersAt .body) :
    p.name ≠ "" := by
  obtain ⟨e, he, shaped, hshaped, rfl⟩ := exists_of_mem_operations h ho
  rw [Operation.parametersAt, List.mem_filter] at hp
  obtain ⟨hmem, hbody⟩ := hp
  rcases List.mem_append.1 hmem with hcall | hoptions
  · obtain ⟨s, hs, rfl⟩ := List.mem_map.1 hcall
    obtain ⟨q, hq, hqs⟩ := exists_mem_of_forall₂ (shapeParameters_eq_ok_iff.1 hshaped).1 (List.mem_of_mem_filter hs)
    obtain ⟨l, hl, heq⟩ := shapeParameter_eq_ok_iff.1 hqs.2
    rw [heq] at hbody ⊢
    refine hm e he q hq ?_
    cases l with
    | body => exact hl
    | _ => simp [Parameter.location?, slotAt, Slot.location?] at hbody
  · obtain rfl := List.mem_singleton.1 hoptions
    simp [Parameter.location?, Parameter.options, Slot.location?] at hbody

end ClientGen.Plan
