import ClientGen.Proofs.Plan.Operation

/-!
# Faults of a model

Everything that is wrong with a model, in the order in which it is met: operation by operation and, within one, its name,
its parameters one by one, and the operations before it that have its name. Planning fails with the first of these
faults, and gives a plan exactly if there are none; every plan keeps what its operation declares.
-/

namespace ClientGen.Plan

/-! ## First faults -/

/-- A computation fails with the first of some faults, and succeeds if there are none. -/
def FailsWith {α : Type} (faults : List ModelFault) (x : Except ModelFault α) : Prop :=
  ∀ e, x = .error e ↔ faults.head? = some e

section FailsWith

variable {α β : Type} {faults faults' : List ModelFault} {x : Except ModelFault α}

theorem failsWith_ok (a : α) : FailsWith [] (.ok a : Except ModelFault α) := fun e => by simp

theorem failsWith_error (e : ModelFault) (rest : List ModelFault) :
    FailsWith (e :: rest) (.error e : Except ModelFault α) := fun e' => by simp

theorem FailsWith.eq_nil_of_ok {a : α} (h : FailsWith faults x) (hx : x = .ok a) : faults = [] := by
  rw [← List.head?_eq_none_iff, Option.eq_none_iff_forall_not_mem]
  intro e he
  cases hx.symm.trans ((h e).2 he)

theorem FailsWith.exists_ok_iff (h : FailsWith faults x) : (∃ a, x = .ok a) ↔ faults = [] := by
  constructor
  · rintro ⟨a, ha⟩
    exact h.eq_nil_of_ok ha
  · rintro rfl
    cases x with
    | ok a => exact ⟨a, rfl⟩
    | error e => exact absurd ((h e).1 rfl) (by simp)

/-- What fails goes before what would come after it. -/
theorem FailsWith.bind {f : α → Except ModelFault β} (hx : FailsWith faults x)
    (hf : ∀ a, x = .ok a → FailsWith faults' (f a)) : FailsWith (faults ++ faults') (x >>= f) := by
  intro e
  cases x with
  | ok a => rw [hx.eq_nil_of_ok rfl, List.nil_append, ok_bind, hf a rfl e]
  | error e' =>
    rw [error_bind, List.head?_append, (hx e').1 rfl, Option.some_or, Except.error.injEq, Option.some.injEq]

end FailsWith

/-- What is found at the items of a list, each looked at with those before it. -/
def findings {α β : Type} (find : List α → α → List β) (before : List α) : List α → List β
  | [] => []
  | a :: rest => find before a ++ findings find (before ++ [a]) rest

/-! ## Parameters -/

section Parameters

variable (operation : String) (before : List Service.Parameter) (p : Service.Parameter)

def nameFaults : List ModelFault :=
  if p.name ∈ before.map Service.Parameter.name ∨ p.name ∈ reservedNames then [.duplicateParameter operation p.name]
  else []

def locationFaults : List ModelFault :=
  if (Location.parse? p.location).isSome then [] else [.unknownLocation operation p.name p.location]

def parameterFaults : List ModelFault := nameFaults operation before p ++ locationFaults operation p

theorem failsWith_shapeParameter : FailsWith (locationFaults operation p) (shapeParameter operation p) := by
  unfold locationFaults shapeParameter
  cases Location.parse? p.location with
  | some l => exact failsWith_ok _
  | none => exact failsWith_error _ _

/-- The names that were seen are those of the parameters before. -/
theorem failsWith_shapeParameters {seen : List String} (hseen : ∀ n, n ∈ seen ↔ n ∈ before.map Service.Parameter.name)
    (ps : List Service.Parameter) :
    FailsWith (findings (parameterFaults operation) before ps) (shapeParameters operation seen ps) := by
  induction ps generalizing seen before with
  | nil => exact failsWith_ok []
  | cons p ps ih =>
    have hcond : (seen.contains p.name || reservedNames.contains p.name) = true ↔
        p.name ∈ before.map Service.Parameter.name ∨ p.name ∈ reservedNames := by
      rw [Bool.or_eq_true, List.contains_iff_mem, List.contains_iff_mem, hseen]
    rw [findings, parameterFaults, nameFaults, shapeParameters]
    by_cases hname : p.name ∈ before.map Service.Parameter.name ∨ p.name ∈ reservedNames
    · rw [if_pos hname, if_pos (hcond.2 hname)]
      exact failsWith_error _ _
    · have hseen' : ∀ n, n ∈ p.name :: seen ↔ n ∈ (before ++ [p]).map Service.Parameter.name := by
        intro n
        simp only [List.mem_cons, hseen, List.map_append, List.map_cons, List.map_nil, List.mem_append,
          List.not_mem_nil, or_false]
        exact or_comm
      rw [if_neg hname, if_neg (mt hcond.1 hname), List.nil_append]
      refine (failsWith_shapeParameter operation p).bind fun q _ => ?_
      rw [← List.append_nil (findings _ _ _)]
      exact (ih (before ++ [p]) hseen').bind fun others _ => failsWith_ok _

end Parameters

/-! ## Operations -/

/-- A path, what is said about it, and an operation that is declared under it. -/
abbrev Declared := String × Service.PathEntry × Service.Operation

section Operations

variable (before : List Declared) (e : Declared)

/-- An operation clashes with every one before it that gets the same name. -/
def clashFaults : List ModelFault :=
  (before.filter fun d => operationName d.2.2 == operationName e.2.2).map fun d =>
    .duplicateOperation (operationName e.2.2) d.1 e.1

def ownFaults : List ModelFault :=
  (if Text.isBlankText e.2.2.name then [.emptyOperationName e.1] else []) ++
    findings (parameterFaults (operationName e.2.2)) [] e.2.2.parameters

def operationFaults : List ModelFault := ownFaults e ++ clashFaults before e

theorem failsWith_shapeOperation : FailsWith (ownFaults e) (shapeOperation e.1 e.2.1.group e.2.2) := by
  unfold ownFaults shapeOperation
  cases Text.isBlankText e.2.2.name with
  | true => exact failsWith_error _ _
  | false =>
    have hparameters := failsWith_shapeParameters (operationName e.2.2) [] (fun _ => Iff.rfl) e.2.2.parameters
    rw [if_neg Bool.false_ne_true, if_neg Bool.false_ne_true, List.nil_append, ← List.append_nil (findings _ _ _)]
    exact hparameters.bind fun shaped _ => failsWith_ok _

theorem head?_clashFaults :
    (clashFaults before e).head? = (before.find? fun d => operationName d.2.2 == operationName e.2.2).map fun d =>
      .duplicateOperation (operationName e.2.2) d.1 e.1 := by
  rw [clashFaults, List.head?_map, List.head?_filter]

theorem name_of_shapeOperation {path : String} {group : Option String} {op : Service.Operation} {o : Operation}
    (h : shapeOperation path group op = .ok o) : o.name = operationName op := by
  obtain ⟨_, shaped, _, rfl⟩ := shapeOperation_eq_ok_iff.1 h
  rfl

/-- The names that were seen stand for the first operations before that have them. -/
theorem failsWith_shapeOperations {seen : List (String × String)}
    (hseen : ∀ n, seen.lookup n = (before.find? fun d => operationName d.2.2 == n).map Prod.fst)
    (entries : List Declared) : FailsWith (findings operationFaults before entries) (shapeOperations seen entries) := by
  induction entries generalizing seen before with
  | nil => exact failsWith_ok []
  | cons e rest ih =>
    obtain ⟨path, entry, op⟩ := e
    rw [findings, operationFaults, List.append_assoc, shapeOperations]
    refine (failsWith_shapeOperation (path, entry, op)).bind fun o ho => ?_
    have hname := name_of_shapeOperation ho
    have hclash := head?_clashFaults before (path, entry, op)
    have hlookup := hseen o.name
    rw [hname] at hlookup ⊢
    cases hfound : before.find? fun d => operationName d.2.2 == operationName op with
    | some d =>
      rw [hfound] at hclash hlookup
      obtain ⟨others, hothers⟩ := List.head?_eq_some_iff.1 hclash
      rw [hothers, hlookup]
      exact failsWith_error _ _
    | none =>
      rw [hfound] at hclash hlookup
      rw [List.head?_eq_none_iff.1 hclash, hlookup, List.nil_append]
      have hseen' : ∀ n, ((operationName op, path) :: seen).lookup n =
          ((before ++ [(path, entry, op)]).find? fun d => operationName d.2.2 == n).map Prod.fst := by
        intro n
        rw [List.lookup_cons, hseen, List.find?_append]
        by_cases hn : n = operationName op
        · subst hn
          simp [hfound]
        · have hn' : (operationName op == n) = false := by simpa using Ne.symm hn
          simp [beq_eq_false_iff_ne.2 hn, hn']
      rw [← List.append_nil (findings _ _ _)]
      exact (ih _ hseen').bind fun others _ => failsWith_ok _

end Operations

/-- All faults of a model in order. -/
def faults (m : Service.Model) : List ModelFault := findings operationFaults [] m.operations

theorem failsWith_operations (m : Service.Model) : FailsWith (faults m) (operations m) :=
  failsWith_shapeOperations [] (fun _ => rfl) m.operations

/-! ## Sound models -/

/-- Parameters with names that differ and that no generated function uses itself, each at one of the four locations. -/
structure SoundParameters (ps : List Service.Parameter) : Prop where
  distinct : (ps.map Service.Parameter.name).Nodup
  unreserved : ∀ p ∈ ps, p.name ≠ "context" ∧ p.name ≠ "options"
  located : ∀ p ∈ ps, (Location.parse? p.location).isSome

structure Sound (m : Service.Model) : Prop where
  named : ∀ e ∈ m.operations, Text.isBlankText e.2.2.name = false
  parameters : ∀ e ∈ m.operations, SoundParameters e.2.2.parameters
  distinct : (m.operations.map fun e => Text.camel e.2.2.name).Nodup

theorem exists_shapeParameter_iff {operation : String} {p : Service.Parameter} :
    (∃ q, shapeParameter operation p = .ok q) ↔ (Location.parse? p.location).isSome := by
  rw [(failsWith_shapeParameter operation p).exists_ok_iff, locationFaults]
  split <;> simp_all

theorem exists_shapeParameters_iff (operation : String) {ps : List Service.Parameter} :
    (∃ shaped, shapeParameters operation [] ps = .ok shaped) ↔ SoundParameters ps := by
  simp only [shapeParameters_eq_ok_iff]
  constructor
  · rintro ⟨shaped, hshaped, hdistinct, hnames⟩
    refine ⟨hdistinct, fun p hp => by simpa [reservedNames] using (hnames p hp).2, fun p hp => ?_⟩
    obtain ⟨s, _, hs⟩ := exists_mem_of_forall₂ hshaped.flip hp
    exact exists_shapeParameter_iff.1 ⟨s.2, hs.2⟩
  · intro h
    obtain ⟨shaped, hshaped⟩ := exists_forall₂ (R := ShapedAs operation) fun p hp => by
      obtain ⟨q, hq⟩ := exists_shapeParameter_iff.2 (h.located p hp)
      exact ⟨(p.onClient, q), rfl, hq⟩
    refine ⟨shaped, hshaped, h.distinct, fun p hp => ⟨List.not_mem_nil, ?_⟩⟩
    simpa [reservedNames] using h.unreserved p hp

theorem exists_plannedAs_iff {e : Declared} :
    (∃ o, PlannedAs e o) ↔ Text.isBlankText e.2.2.name = false ∧ SoundParameters e.2.2.parameters := by
  simp only [PlannedAs, shapeOperation_eq_ok_iff, ← exists_shapeParameters_iff (operationName e.2.2)]
  constructor
  · rintro ⟨o, hname, shaped, hshaped, _⟩
    exact ⟨hname, shaped, hshaped⟩
  · rintro ⟨hname, shaped, hshaped⟩
    exact ⟨_, hname, shaped, hshaped, rfl⟩

theorem map_name_of_plannedAs {entries : List Declared} {ops : List Operation}
    (h : List.Forall₂ PlannedAs entries ops) : ops.map Operation.name = entries.map fun e => operationName e.2.2 := by
  induction h with
  | nil => rfl
  | cons ho _ ih => rw [List.map_cons, List.map_cons, ih, name_of_shapeOperation ho]

theorem exists_operations_iff {m : Service.Model} : (∃ ops, operations m = .ok ops) ↔ Sound m := by
  simp only [operations_eq_ok_iff]
  constructor
  · rintro ⟨ops, hops, hnames⟩
    have hplanned : ∀ e ∈ m.operations, ∃ o, PlannedAs e o := fun e he => by
      obtain ⟨o, _, ho⟩ := exists_mem_of_forall₂ hops.flip he
      exact ⟨o, ho⟩
    exact ⟨fun e he => (exists_plannedAs_iff.1 (hplanned e he)).1,
      fun e he => (exists_plannedAs_iff.1 (hplanned e he)).2, map_name_of_plannedAs hops ▸ hnames⟩
  · intro h
    obtain ⟨ops, hops⟩ := exists_forall₂ fun e he => exists_plannedAs_iff.2 ⟨h.named e he, h.parameters e he⟩
    exact ⟨ops, hops, map_name_of_plannedAs hops ▸ h.distinct⟩

/-! ## What a plan keeps -/

/-- What is planned for a declared parameter. Only one in the path loses its mark for optional. -/
structure KeepsParameter (p : Service.Parameter) (q : Parameter) : Prop where
  name : q.name = p.name
  type : q.type = p.type
  location : q.location? = Location.parse? p.location
  optional : q.optional = true ↔ p.optional = true ∧ q.location? ≠ some .path

/-- What is planned for a declared operation: its parameters in order, apart by who binds them, and one bag of options
behind those of a call. -/
structure KeepsOperation (e : Declared) (o : Operation) : Prop where
  name : o.name = Text.camel e.2.2.name
  path : o.path = e.1
  perCall : List.Forall₂ KeepsParameter (e.2.2.parameters.filter fun p => !p.onClient)
    (o.parameters.filter fun q => !q.isOptions)
  client : List.Forall₂ KeepsParameter (e.2.2.parameters.filter fun p => p.onClient) o.clientParameters
  lastOptions : o.parameters.getLast? = some (.options o.optionsType)
  oneOptions : (o.parameters ++ o.clientParameters).countP Parameter.isOptions = 1
  required : ∀ q ∈ o.parameters ++ o.clientParameters, q.location? = some .path → q.optional = false
  version : o.removesApiVersionPolicy = true ↔ ∃ p ∈ e.2.2.parameters, p.onClient = false ∧
    Location.parse? p.location = some .query ∧ p.isApiVersion = true

theorem location?_slotAt (p : Service.Parameter) (l : Location) : (slotAt p l).location? = some l := by
  cases l <;> rfl

theorem slotAt_eq_query_iff {p : Service.Parameter} {l : Location} {isApiVersion : Bool} :
    slotAt p l = .query isApiVersion ↔ l = .query ∧ p.isApiVersion = isApiVersion := by
  cases l <;> simp [slotAt]

theorem keepsParameter_of_shapeParameter {operation : String} {p : Service.Parameter} {q : Parameter}
    (h : shapeParameter operation p = .ok q) : KeepsParameter p q := by
  obtain ⟨l, hl, rfl⟩ := shapeParameter_eq_ok_iff.1 h
  have hlocation : (slotAt p l).location? = some l := location?_slotAt p l
  refine ⟨rfl, rfl, hlocation.trans hl.symm, ?_⟩
  rw [Parameter.location?, hlocation, Bool.and_eq_true, bne_iff_ne, ne_eq, ne_eq, Option.some.injEq]

theorem required_of_shapeParameter {operation : String} {p : Service.Parameter} {q : Parameter}
    (h : shapeParameter operation p = .ok q) (hpath : q.location? = some .path) : q.optional = false := by
  rw [← Bool.not_eq_true, (keepsParameter_of_shapeParameter h).optional]
  exact fun hoptional => hoptional.2 hpath

/-- The version of the interface is given at each call exactly if a parameter of a call says so. -/
theorem removesApiVersionPolicy_iff {e : Declared} {o : Operation} (h : PlannedAs e o) :
    o.removesApiVersionPolicy = true ↔ ∃ p ∈ e.2.2.parameters, p.onClient = false ∧
      Location.parse? p.location = some .query ∧ p.isApiVersion = true := by
  obtain ⟨_, shaped, hshaped, rfl⟩ := shapeOperation_eq_ok_iff.1 h
  have hall := (shapeParameters_eq_ok_iff.1 hshaped).1
  simp only [plannedOperation, List.any_eq_true, List.mem_map, List.mem_filter, Bool.not_eq_eq_eq_not, Bool.not_true,
    beq_iff_eq]
  constructor
  · rintro ⟨q, ⟨s, ⟨hs, hcall⟩, rfl⟩, hslot⟩
    obtain ⟨p, hp, hclient, hq⟩ := exists_mem_of_forall₂ hall hs
    obtain ⟨l, hl, heq⟩ := shapeParameter_eq_ok_iff.1 hq
    rw [heq, slotAt_eq_query_iff] at hslot
    exact ⟨p, hp, hclient.symm.trans hcall, hslot.1 ▸ hl, hslot.2⟩
  · rintro ⟨p, hp, hcall, hl, hversion⟩
    obtain ⟨s, hs, hclient, hq⟩ := exists_mem_of_forall₂ hall.flip hp
    obtain ⟨l, hl', heq⟩ := shapeParameter_eq_ok_iff.1 hq
    obtain rfl := Option.some.inj (hl.symm.trans hl')
    refine ⟨s.2, ⟨s, ⟨hs, hclient.trans hcall⟩, rfl⟩, ?_⟩
    rw [heq]
    exact slotAt_eq_query_iff.2 ⟨rfl, hversion⟩

theorem keepsOperation_of_plannedAs {e : Declared} {o : Operation} (h : PlannedAs e o) : KeepsOperation e o := by
  obtain ⟨perCall, hparameters, hperCall⟩ := shaped_parameters h
  have hclient := shaped_clientParameters h
  have hshaped : ∀ q ∈ perCall ++ o.clientParameters, ∃ p, shapeParameter (operationName e.2.2) p = .ok q := by
    intro q hq
    rcases List.mem_append.1 hq with hq | hq
    · obtain ⟨p, _, hp⟩ := exists_mem_of_forall₂ hperCall hq
      exact ⟨p, hp⟩
    · obtain ⟨p, _, hp⟩ := exists_mem_of_forall₂ hclient hq
      exact ⟨p, hp⟩
  have hnot : ∀ q ∈ perCall ++ o.clientParameters, q.isOptions = false := fun q hq =>
    isOptions_of_shapeParameter (hshaped q hq).choose_spec
  rw [List.forall_mem_append] at hnot
  have hcount : ∀ l : List Parameter, (∀ q ∈ l, q.isOptions = false) → l.countP Parameter.isOptions = 0 := by
    intro l hl
    rw [List.countP_eq_zero]
    exact fun q hq => by simp [hl q hq]
  refine ⟨name_of_shapeOperation h, path_of_shapeOperation h, ?_, hclient.imp fun _ _ => keepsParameter_of_shapeParameter,
    ?_, ?_, ?_, removesApiVersionPolicy_iff h⟩
  · have hkept : perCall.filter (fun q => !q.isOptions) = perCall := by
      rw [List.filter_eq_self]
      exact fun q hq => by simp [hnot.1 q hq]
    have hbag : [Parameter.options o.optionsType].filter (fun q => !q.isOptions) = [] := rfl
    rw [hparameters, List.filter_append, hkept, hbag, List.append_nil]
    exact hperCall.imp fun _ _ => keepsParameter_of_shapeParameter
  · rw [hparameters, List.getLast?_concat]
  · have hbag : [Parameter.options o.optionsType].countP Parameter.isOptions = 1 := rfl
    rw [hparameters, List.countP_append, List.countP_append, hcount _ hnot.1, hcount _ hnot.2, hbag]
  · intro q hq hpath
    rw [hparameters, List.append_assoc, List.singleton_append] at hq
    have hq' : q = .options o.optionsType ∨ q ∈ perCall ++ o.clientParameters := by
      simpa [or_left_comm] using hq
    rcases hq' with rfl | hq'
    · cases hpath
    · obtain ⟨p, hp⟩ := hshaped q hq'
      exact required_of_shapeParameter hp hpath

/-- A model can be planned exactly if it is sound, and otherwise planning fails with the first of its faults. A plan has
one operation for each that is declared, in order, and each keeps what it was declared with. -/
theorem planning_spec (m : Service.Model) :
    ((∃ ops, operations m = .ok ops) ↔ Sound m) ∧
      (∀ e, operations m = .error e ↔ (faults m).head? = some e) ∧
      ∀ ops, operations m = .ok ops → List.Forall₂ KeepsOperation m.operations ops := by
  refine ⟨exists_operations_iff, failsWith_operations m, fun ops hops => ?_⟩
  exact (operations_eq_ok_iff.1 hops).1.imp fun _ _ => keepsOperation_of_plannedAs

/-- The version is given at each call, the region once; the mark for optional in the path has no effect. -/
def visitThing : Service.Operation :=
  { readThing with
    name := "visit thing"
    parameters :=
      [⟨"region", "string", "header", true, false, none, false⟩, ⟨"id", "string", "path", false, true, none, false⟩,
        ⟨"version", "string", " Query", false, true, none, true⟩] }

def plannedVisit : Operation :=
  plannedOperation "visitThing" "/things/\x7bid\x7d" none visitThing
    [(true, ⟨"region", "string", false, .header "region"⟩), (false, ⟨"id", "string", false, .path⟩),
      (false, ⟨"version", "string", true, .query true⟩)]

def visits : Service.Model :=
  { things with paths := ⟨[("/things/\x7bid\x7d", ⟨"thing", none, [], [visitThing]⟩)], by simp⟩ }

/-- A second operation of the same name, which a location and a name among its parameters precede as faults. -/
def visitAgain : Service.Operation :=
  { readThing with
    name := "visit-thing"
    parameters :=
      [⟨"session", "string", "cookie", false, false, none, false⟩,
        ⟨"options", "string", "query", false, false, none, false⟩] }

def secondVisits : Service.Model :=
  { things with
    paths :=
      ⟨[("/things/\x7bid\x7d", ⟨"thing", none, [], [visitThing]⟩), ("/visits", ⟨"visit", none, [], [visitAgain]⟩)],
        by simp⟩ }

theorem planning_spec_visits :
    (operations visits = .ok [plannedVisit] ∧ Sound visits ∧
      List.Forall₂ KeepsOperation visits.operations [plannedVisit]) ∧
    faults secondVisits = [.unknownLocation "visitThing" "session" "cookie", .duplicateParameter "visitThing" "options",
      .duplicateOperation "visitThing" "/things/\x7bid\x7d" "/visits"] ∧
    operations secondVisits = .error (.unknownLocation "visitThing" "session" "cookie") ∧ ¬ Sound secondVisits := by
  have hplan : operations visits = .ok [plannedVisit] := rfl
  have hfaults : faults secondVisits = [.unknownLocation "visitThing" "session" "cookie",
      .duplicateParameter "visitThing" "options",
      .duplicateOperation "visitThing" "/things/\x7bid\x7d" "/visits"] := by
    decide +kernel
  obtain ⟨hsound, _, hkeeps⟩ := planning_spec visits
  obtain ⟨hsound', hfails, _⟩ := planning_spec secondVisits
  have hfault : operations secondVisits = .error (.unknownLocation "visitThing" "session" "cookie") := by
    rw [hfails, hfaults, List.head?_cons]
  refine ⟨⟨hplan, hsound.1 ⟨_, hplan⟩, hkeeps _ hplan⟩, hfaults, hfault, fun h => ?_⟩
  obtain ⟨ops, hops⟩ := hsound'.2 h
  cases hops.symm.trans hfault

end ClientGen.Plan
