import ClientGen.Call.Arguments
import ClientGen.Proofs.Dict
import ClientGen.Proofs.Plan.Operation

/-!
# The values of a call

Which values a call supplies, in terms of the parameters that the operation declares: those that the client binds come
first, and among those of one kind the declared order stays.
-/

namespace ClientGen

namespace Call

variable {args : Arguments}

/-- The value given for a parameter. For an optional one null is none. -/
def valueFor? (args : Arguments) (name : String) (optional : Bool) : Option Json :=
  match args.get? name with
  | some .null => if optional then none else some .null
  | value => value

theorem valueFor?_required (args : Arguments) (name : String) : valueFor? args name false = args.get? name := by
  unfold valueFor?
  split
  · next h => simp [h]
  · rfl

theorem argument_eq_ok_iff {p : Plan.Parameter} {value : Option Json} :
    argument args p = .ok value ↔
      value = valueFor? args p.name p.optional ∧ (valueFor? args p.name p.optional = none → p.optional = true) := by
  unfold argument valueFor?
  cases args.get? p.name with
  | none => cases p.optional <;> simp [eq_comm]
  | some j => cases j <;> cases p.optional <;> simp [eq_comm]

/-- Values are supplied exactly if every required parameter has one. -/
theorem supplied_eq_ok_iff {ps : List Plan.Parameter} {values : List (Plan.Parameter × Json)} :
    supplied args ps = .ok values ↔
      (∀ p ∈ ps, valueFor? args p.name p.optional = none → p.optional = true) ∧
        values = ps.filterMap fun p => (valueFor? args p.name p.optional).map (p, ·) := by
  induction ps generalizing values with
  | nil => cases values <;> simp [supplied]
  | cons p ps ih =>
    simp only [supplied, bind_eq_ok_iff, argument_eq_ok_iff, ih, List.forall_mem_cons, Except.ok.injEq]
    constructor
    · rintro ⟨value, ⟨rfl, hp⟩, others, ⟨hps, rfl⟩, rfl⟩
      refine ⟨⟨hp, hps⟩, ?_⟩
      rw [List.filterMap_cons]
      cases valueFor? args p.name p.optional <;> rfl
    · rintro ⟨⟨hp, hps⟩, rfl⟩
      refine ⟨_, ⟨rfl, hp⟩, _, ⟨hps, rfl⟩, ?_⟩
      rw [List.filterMap_cons]
      cases valueFor? args p.name p.optional <;> rfl

theorem mem_supplied_iff {ps : List Plan.Parameter} {values : List (Plan.Parameter × Json)}
    (h : supplied args ps = .ok values) {p : Plan.Parameter} {value : Json} :
    (p, value) ∈ values ↔ p ∈ ps ∧ valueFor? args p.name p.optional = some value := by
  rw [(supplied_eq_ok_iff.1 h).2, List.mem_filterMap]
  constructor
  · rintro ⟨q, hq, hvalue⟩
    obtain ⟨v, hv, heq⟩ := Option.map_eq_some_iff.1 hvalue
    cases heq
    exact ⟨hq, hv⟩
  · rintro ⟨hp, hvalue⟩
    exact ⟨p, hp, by rw [hvalue, Option.map_some]⟩

theorem names_supplied_sublist {ps : List Plan.Parameter} {values : List (Plan.Parameter × Json)}
    (h : supplied args ps = .ok values) :
    (values.map fun e => e.1.name).Sublist (ps.map Plan.Parameter.name) := by
  rw [(supplied_eq_ok_iff.1 h).2]
  clear h
  induction ps with
  | nil => exact List.Sublist.slnil
  | cons p ps ih =>
    rw [List.filterMap_cons, List.map_cons]
    cases valueFor? args p.name p.optional with
    | none => exact ih.cons _
    | some value => exact ih.cons_cons _

theorem request_eq_ok_iff {op : Plan.Operation} {r : Request} :
    request op args = .ok r ↔ ∃ values, supplied args (argumentParameters op) = .ok values ∧
      r = { method := op.method, url := urlOf (pathOf op.path values) (queryOf values),
            headers := headersOf values, body := bodyOf? values } := by
  simp only [request, bind_eq_ok_iff, Except.ok.injEq, @eq_comm _ r]

end Call

/-! ## Declared parameters -/

namespace Plan

/-- The parameters of an operation in the order in which a call looks them up: those of the client first. -/
def callOrder (ps : List Service.Parameter) : List Service.Parameter :=
  ps.filter (fun p => p.onClient) ++ ps.filter fun p => !p.onClient

theorem callOrder_perm (ps : List Service.Parameter) : (callOrder ps).Perm ps :=
  List.filter_append_perm _ ps

variable {path : String} {group : Option String} {decl : Service.Operation} {o : Operation}

/-- The parameters of a planned operation for which a call has arguments are the declared ones. -/
theorem shaped_argumentParameters (h : shapeOperation path group decl = .ok o) :
    List.Forall₂ (fun p q => shapeParameter (operationName decl) p = .ok q) (callOrder decl.parameters)
      (Call.argumentParameters o) := by
  obtain ⟨perCall, hparameters, hperCall⟩ := shaped_parameters h
  have hshaped := List.rel_append (shaped_clientParameters h) hperCall
  have hkept : (o.clientParameters ++ perCall).filter (fun q => !q.isOptions) = o.clientParameters ++ perCall := by
    rw [List.filter_eq_self]
    intro q hq
    obtain ⟨p, _, hp⟩ := exists_mem_of_forall₂ hshaped hq
    rw [isOptions_of_shapeParameter hp, Bool.not_false]
  have hoptions : ([.options o.optionsType] : List Parameter).filter (fun q => !q.isOptions) = [] := rfl
  rw [Call.argumentParameters, hparameters, ← List.append_assoc, List.filter_append, hkept, hoptions, List.append_nil]
  exact hshaped

theorem names_argumentParameters (h : shapeOperation path group decl = .ok o) :
    (Call.argumentParameters o).map Parameter.name = (callOrder decl.parameters).map Service.Parameter.name := by
  rw [eq_comm, ← List.forall₂_eq_eq_eq, List.forall₂_map_left_iff, List.forall₂_map_right_iff]
  exact (shaped_argumentParameters h).imp fun p q hpq => (name_of_shapeParameter hpq).symm

theorem nodup_names_argumentParameters (h : shapeOperation path group decl = .ok o) :
    ((Call.argumentParameters o).map Parameter.name).Nodup := by
  rw [names_argumentParameters h]
  exact ((callOrder_perm _).map _).nodup_iff.2 (nodup_names_of_shapeOperation h)

/-- Any texts can be given for the parameters of an operation, and then it can be called. -/
theorem exists_request (h : shapeOperation path group decl = .ok o) (value : String → String) :
    ∃ args r, Call.request o args = .ok r ∧
      ∀ p ∈ decl.parameters, args.get? p.name = some (.string (value p.name)) := by
  let args : Call.Arguments :=
    ⟨decl.parameters.map fun p => (p.name, .string (value p.name)), by
      rw [List.map_map]
      exact nodup_names_of_shapeOperation h⟩
  have hargs : ∀ p ∈ decl.parameters, args.get? p.name = some (.string (value p.name)) := fun p hp =>
    Dict.find?_eq_some_of_mem args.nodup (List.mem_map_of_mem hp)
  obtain ⟨values, hsupplied⟩ : ∃ values, Call.supplied args (Call.argumentParameters o) = .ok values := by
    refine ⟨_, Call.supplied_eq_ok_iff.2 ⟨fun q hq hnone => ?_, rfl⟩⟩
    obtain ⟨p, hp, hpq⟩ := exists_mem_of_forall₂ (shaped_argumentParameters h) hq
    have hgiven := hargs p ((callOrder_perm _).subset hp)
    rw [name_of_shapeParameter hpq, Call.valueFor?, hgiven] at hnone
    cases hnone
  exact ⟨args, _, Call.request_eq_ok_iff.2 ⟨_, hsupplied, rfl⟩, hargs⟩

end Plan

end ClientGen
