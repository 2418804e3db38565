import ClientGen.Proofs.Call.Url

/-!
# What a call sends

A call fails exactly if a parameter that it cannot do without is missing, and then it names the first one. Otherwise it
sends the value of each parameter that has one: in the body as it is, elsewhere as its text, which is `null` for a null.
Nothing else among the arguments matters.
-/

namespace ClientGen

namespace Call

open Plan (callOrder shapeOperation)

variable {args args' : Arguments}

/-! ## Failure -/

/-- Nothing is given for a parameter that a call cannot do without. -/
def isMissing (args : Arguments) (p : Plan.Parameter) : Bool := !p.optional && (args.get? p.name).isNone

theorem isMissing_iff {p : Plan.Parameter} :
    isMissing args p = true ↔ p.optional = false ∧ args.get? p.name = none := by
  simp [isMissing]

theorem argument_eq_error_iff {p : Plan.Parameter} {e : CallError} :
    argument args p = .error e ↔ isMissing args p = true ∧ e = .missingArgument p.name := by
  unfold argument isMissing
  cases args.get? p.name with
  | none => cases p.optional <;> simp [eq_comm]
  | some value => cases value <;> simp

/-- Parameters are gone through until one is missing. -/
theorem supplied_eq_error_iff {ps : List Plan.Parameter} {e : CallError} :
    supplied args ps = .error e ↔ ∃ p, ps.find? (isMissing args) = some p ∧ e = .missingArgument p.name := by
  induction ps with
  | nil => simp [supplied]
  | cons p ps ih =>
    cases hp : argument args p with
    | error e' =>
      obtain ⟨hmissing, rfl⟩ := argument_eq_error_iff.1 hp
      simp [supplied, hp, hmissing, eq_comm]
    | ok value =>
      have hfound : isMissing args p = false := by
        by_contra hmissing
        exact absurd (hp.symm.trans (argument_eq_error_iff.2 ⟨by simpa using hmissing, rfl⟩)) (by simp)
      have hrest : supplied args (p :: ps) = .error e ↔ supplied args ps = .error e := by
        rw [supplied, hp, ok_bind]
        cases supplied args ps <;> simp
      rw [hrest, ih, List.find?_cons_of_neg (by simp [hfound])]

/-- The request that sends some values. -/
def requestOf (op : Plan.Operation) (values : List (Plan.Parameter × Json)) : Request where
  method := op.method
  url := urlOf (pathOf op.path values) (queryOf values)
  headers := headersOf values
  body := bodyOf? values

theorem request_eq (op : Plan.Operation) (args : Arguments) :
    request op args = (supplied args (argumentParameters op)).map (requestOf op) := by
  rw [request]
  cases supplied args (argumentParameters op) <;> rfl

theorem request_eq_error_iff {op : Plan.Operation} {e : CallError} :
    request op args = .error e ↔
      ∃ p, (argumentParameters op).find? (isMissing args) = some p ∧ e = .missingArgument p.name := by
  rw [request_eq, ← supplied_eq_error_iff]
  cases supplied args (argumentParameters op) <;> simp [Except.map]

theorem exists_request_eq_error_iff {op : Plan.Operation} :
    (∃ e, request op args = .error e) ↔ ∃ p ∈ op.clientParameters ++ op.parameters,
      p.isOptions = false ∧ p.optional = false ∧ args.get? p.name = none := by
  have hfound : (∃ e, request op args = .error e) ↔ ((argumentParameters op).find? (isMissing args)).isSome := by
    simp only [request_eq_error_iff, Option.isSome_iff_exists]
    exact ⟨fun ⟨_, p, hp, _⟩ => ⟨p, hp⟩, fun ⟨p, hp⟩ => ⟨_, p, hp, rfl⟩⟩
  rw [hfound, List.find?_isSome]
  simp [argumentParameters, isMissing_iff, ← or_and_right, and_assoc]

/-! ## Parameters with nothing to send -/

/-- Of the parameters of an operation only some are kept. -/
def keeping (keep : Plan.Parameter → Bool) (op : Plan.Operation) : Plan.Operation :=
  { op with
    clientParameters := op.clientParameters.filter keep
    parameters := op.parameters.filter keep }

theorem argumentParameters_keeping (keep : Plan.Parameter → Bool) (op : Plan.Operation) :
    argumentParameters (keeping keep op) = (argumentParameters op).filter keep := by
  simp only [argumentParameters, keeping, ← List.filter_append, List.filter_filter, Bool.and_comm]

theorem argument_eq_ok_none {p : Plan.Parameter} (hoptional : p.optional = true)
    (hnothing : args.get? p.name = none ∨ args.get? p.name = some .null) : argument args p = .ok none := by
  rcases hnothing with hnone | hnull
  · simp [argument, hnone, hoptional]
  · simp [argument, hnull, hoptional]

theorem supplied_filter {keep : Plan.Parameter → Bool} {ps : List Plan.Parameter}
    (h : ∀ p ∈ ps, keep p = false → argument args p = .ok none) :
    supplied args (ps.filter keep) = supplied args ps := by
  induction ps with
  | nil => rfl
  | cons p ps ih =>
    obtain ⟨hp, hps⟩ := List.forall_mem_cons.1 h
    cases hkeep : keep p with
    | true => rw [List.filter_cons_of_pos hkeep, supplied, ih hps, supplied]
    | false =>
      rw [List.filter_cons_of_neg (by simp [hkeep]), ih hps, supplied, hp hkeep, ok_bind]
      cases supplied args ps <;> rfl

/-- Optional parameters that are missing or null may as well not be declared. -/
theorem request_keeping {op : Plan.Operation} {keep : Plan.Parameter → Bool}
    (h : ∀ p ∈ op.clientParameters ++ op.parameters, keep p = false →
      p.optional = true ∧ (args.get? p.name = none ∨ args.get? p.name = some .null)) :
    request (keeping keep op) args = request op args := by
  have hnothing : ∀ p ∈ argumentParameters op, keep p = false → argument args p = .ok none := by
    intro p hp hkeep
    obtain ⟨hoptional, hvalue⟩ := h p (List.mem_of_mem_filter hp) hkeep
    exact argument_eq_ok_none hoptional hvalue
  rw [request_eq, request_eq, argumentParameters_keeping, supplied_filter hnothing]
  rfl

/-! ## Values as they are sent -/

/-- A value in the form in which it is sent: in the body as it is, elsewhere as its text. -/
def sentValue (p : Plan.Parameter) (value : Json) : Json :=
  if p.slot = .body then value else .string (scalarText value)

theorem scalarText_sentValue {p : Plan.Parameter} (h : p.slot ≠ .body) (value : Json) :
    scalarText (sentValue p value) = scalarText value := by
  rw [sentValue, if_neg h]
  rfl

theorem sentValue_body {p : Plan.Parameter} (h : p.slot = .body) (value : Json) : sentValue p value = value := if_pos h

def sentOf (values : List (Plan.Parameter × Json)) : List (Plan.Parameter × Json) :=
  values.map fun e => (e.1, sentValue e.1 e.2)

theorem pathOf_sentOf (path : String) (values : List (Plan.Parameter × Json)) :
    pathOf path (sentOf values) = pathOf path values := by
  rw [pathOf, sentOf, List.foldl_map, pathOf]
  refine congrArg (fun step => values.foldl step path) (funext fun path => funext fun e => ?_)
  by_cases hslot : e.1.slot = .path
  · simp [fillPath, hslot, scalarText_sentValue (show e.1.slot ≠ .body by simp [hslot])]
  · simp [hslot]

theorem queryOf_sentOf (values : List (Plan.Parameter × Json)) : queryOf (sentOf values) = queryOf values := by
  induction values with
  | nil => rfl
  | cons e values ih =>
    cases hslot : e.1.slot.isQuery with
    | false => simpa [queryOf, sentOf, hslot] using ih
    | true =>
      have hbody : e.1.slot ≠ .body := fun heq => by simp [heq, Plan.Slot.isQuery] at hslot
      simpa [queryOf, sentOf, hslot, scalarText_sentValue hbody] using ih

theorem headersOf_sentOf (values : List (Plan.Parameter × Json)) : headersOf (sentOf values) = headersOf values := by
  rw [headersOf, sentOf, List.filterMap_map, headersOf]
  refine congrArg Dict.ofList (List.filterMap_congr fun e _ => ?_)
  cases hslot : e.1.slot with
  | header wireName =>
    simp [Plan.Parameter.wireName?, hslot, scalarText_sentValue (show e.1.slot ≠ .body by simp [hslot])]
  | _ => simp [Plan.Parameter.wireName?, hslot]

theorem bodyOf?_sentOf (values : List (Plan.Parameter × Json)) : bodyOf? (sentOf values) = bodyOf? values := by
  have hvalues : ((sentOf values).filter fun e => e.1.slot == .body).map Prod.snd =
      (values.filter fun e => e.1.slot == .body).map Prod.snd := by
    rw [sentOf, List.filter_map, List.map_map]
    refine List.map_congr_left fun e he => sentValue_body ?_ e.2
    simpa using List.of_mem_filter he
  exact congrArg List.getLast? hvalues

theorem requestOf_sentOf (op : Plan.Operation) (values : List (Plan.Parameter × Json)) :
    requestOf op (sentOf values) = requestOf op values := by
  rw [requestOf, pathOf_sentOf, queryOf_sentOf, headersOf_sentOf, bodyOf?_sentOf]
  rfl

def sentArgument (args : Arguments) (p : Plan.Parameter) : Except CallError (Option Json) :=
  (argument args p).map (Option.map (sentValue p))

/-- Values that are looked up for one parameter after the other. -/
def collected (value : Plan.Parameter → Except CallError (Option Json)) :
    List Plan.Parameter → Except CallError (List (Plan.Parameter × Json))
  | [] => .ok []
  | p :: rest => do
    let v ← value p
    let others ← collected value rest
    .ok ((v.map (p, ·)).toList ++ others)

theorem map_sentOf_supplied (args : Arguments) (ps : List Plan.Parameter) :
    (supplied args ps).map sentOf = collected (sentArgument args) ps := by
  induction ps with
  | nil => rfl
  | cons p ps ih =>
    rw [supplied, collected, sentArgument, ← ih]
    cases argument args p with
    | error e => rfl
    | ok value =>
      cases supplied args ps with
      | error e => rfl
      | ok values => cases value <;> rfl

theorem collected_congr {value value' : Plan.Parameter → Except CallError (Option Json)} {ps : List Plan.Parameter}
    (h : ∀ p ∈ ps, value p = value' p) : collected value ps = collected value' ps := by
  induction ps with
  | nil => rfl
  | cons p ps ih =>
    obtain ⟨hp, hps⟩ := List.forall_mem_cons.1 h
    rw [collected, collected, hp, ih hps]

/-- Arguments that are sent alike make the same request, or fail alike. -/
theorem request_congr {op : Plan.Operation}
    (h : ∀ p ∈ argumentParameters op, sentArgument args' p = sentArgument args p) :
    request op args' = request op args := by
  -- Both requests are made from values as they are sent, and those are looked up one parameter at a time.
  have hsent : ∀ args : Arguments,
      request op args = (collected (sentArgument args) (argumentParameters op)).map (requestOf op) := by
    intro args
    rw [request_eq, ← map_sentOf_supplied]
    cases supplied args (argumentParameters op) with
    | error e => rfl
    | ok values => exact congrArg Except.ok (requestOf_sentOf op values).symm
  rw [hsent, hsent, collected_congr h]

theorem argument_congr {p : Plan.Parameter} (h : args'.get? p.name = args.get? p.name) :
    argument args' p = argument args p := by
  rw [argument, h, argument]

/-! ## Texts -/

/-- How a value reads outside the body: a text as it is, any other value as in JSON. -/
def sentText : Json → String
  | .null => "null"
  | .bool value => if value then "true" else "false"
  | .int value => toString value
  | .double value => value.text
  | .string text => text
  | value => value.compact

theorem scalarText_eq_sentText (value : Json) : scalarText value = sentText value := by
  rcases value with _ | (_ | _) | _ | _ | _ | _ | _ | _ <;> simp [scalarText, sentText, Json.compact, Json.scalarText]

/-- The parameters that have a value, each with how the value reads. -/
def valueTexts (op : Plan.Operation) (args : Arguments) : List (Plan.Parameter × String) :=
  (argumentParameters op).filterMap fun p => (valueFor? args p.name p.optional).map fun value => (p, sentText value)

/-- A path with a text in the place of each parameter that belongs there. -/
def pathWith (path : String) (texts : List (Plan.Parameter × String)) : String :=
  (texts.filter fun e => e.1.slot = .path).foldl
    (fun path e => Text.replaced path (placeholder e.1.name) (Text.Percent.encode e.2)) path

/-- The request that sends a text for each parameter outside the body. -/
def sending (op : Plan.Operation) (texts : List (Plan.Parameter × String)) (body : Option Json) : Request where
  method := op.method
  url := urlOf (pathWith op.path texts) ((texts.filter fun e => e.1.slot.isQuery).map fun e => (e.1.name, e.2))
  headers := .ofList (texts.filterMap fun e => e.1.wireName?.map fun wireName => (wireName, e.2))
  body := body

def textsOf (values : List (Plan.Parameter × Json)) : List (Plan.Parameter × String) :=
  values.map fun e => (e.1, sentText e.2)

theorem pathOf_eq_pathWith (path : String) (values : List (Plan.Parameter × Json)) :
    pathOf path values = pathWith path (textsOf values) := by
  induction values generalizing path with
  | nil => rfl
  | cons e values ih =>
    rw [pathOf, List.foldl_cons, ← pathOf, ih]
    by_cases hslot : e.1.slot = .path
    · simp [pathWith, textsOf, hslot, fillPath, placeholder, scalarText_eq_sentText]
    · simp [pathWith, textsOf, hslot]

theorem requestOf_eq_sending (op : Plan.Operation) (values : List (Plan.Parameter × Json)) :
    requestOf op values = sending op (textsOf values) (bodyOf? values) := by
  rw [requestOf, sending, pathOf_eq_pathWith]
  simp [queryOf, headersOf, textsOf, List.filter_map, List.filterMap_map, Function.comp_def, scalarText_eq_sentText]

theorem null_mem_valueTexts {op : Plan.Operation} {p : Plan.Parameter} (hp : p ∈ argumentParameters op)
    (hoptional : p.optional = false) (hnull : args.get? p.name = some .null) : (p, "null") ∈ valueTexts op args := by
  refine List.mem_filterMap.2 ⟨p, hp, ?_⟩
  rw [hoptional, valueFor?_required, hnull]
  rfl

/-! ## Headers and body -/

/-- The texts that are sent under the name of a header. -/
def headerTexts (op : Plan.Operation) (args : Arguments) (name : String) : List String :=
  (argumentParameters op).filterMap fun p =>
    if p.wireName? = some name then (valueFor? args p.name p.optional).map scalarText else none

/-- The values that are sent as the body. -/
def bodyValues (op : Plan.Operation) (args : Arguments) : List Json :=
  (argumentParameters op).filterMap fun p =>
    if p.slot = .body then valueFor? args p.name p.optional else none

/-- What comes last is an image of the last member that has one. -/
theorem getLast?_filterMap_of_split {α β : Type} {f : α → Option β} {before after : List α} {a : α} {b : β}
    (ha : f a = some b) (hafter : ∀ x ∈ after, f x = none) : ((before ++ a :: after).filterMap f).getLast? = some b := by
  rw [List.filterMap_append, List.filterMap_cons_some ha, List.filterMap_eq_nil_iff.2 hafter, List.getLast?_concat]

section Sent

variable {op : Plan.Operation} {r : Request} (hr : request op args = .ok r)
include hr

/-- Of several texts for one header the last is sent. -/
theorem header_eq (name : String) : r.headers.get? name = (headerTexts op args name).getLast? := by
  obtain ⟨values, hv, rfl⟩ := request_eq_ok_iff.1 hr
  obtain ⟨-, rfl⟩ := supplied_eq_ok_iff.1 hv
  simp only [headersOf, Dict.get?_ofList, List.filterMap_filterMap, headerTexts]
  refine congrArg List.getLast? (List.filterMap_congr fun p _ => ?_)
  cases valueFor? args p.name p.optional with
  | none => simp
  | some value => cases hwire : p.wireName? <;> simp [hwire]

/-- Of several values for the body the last is sent. -/
theorem body_eq : r.body = (bodyValues op args).getLast? := by
  obtain ⟨values, hv, rfl⟩ := request_eq_ok_iff.1 hr
  obtain ⟨-, rfl⟩ := supplied_eq_ok_iff.1 hv
  rw [bodyOf?, bodyValues, ← List.filterMap_eq_filter, List.map_filterMap, List.filterMap_filterMap]
  refine congrArg List.getLast? (List.filterMap_congr fun p _ => ?_)
  by_cases hslot : p.slot = .body <;> cases valueFor? args p.name p.optional <;> simp [hslot]

/-- What a call sends is made of how the values read and of the last value for the body. -/
theorem request_eq_sending : r = sending op (valueTexts op args) (bodyValues op args).getLast? := by
  rw [← body_eq hr]
  obtain ⟨values, hv, rfl⟩ := request_eq_ok_iff.1 hr
  obtain ⟨-, rfl⟩ := supplied_eq_ok_iff.1 hv
  refine (requestOf_eq_sending op _).trans (congrArg (sending op · _) ?_)
  rw [textsOf, List.map_filterMap, valueTexts]
  refine List.filterMap_congr fun p _ => ?_
  cases valueFor? args p.name p.optional <;> rfl

/-- A null for a header that is required is sent as its text, unless a later parameter has a value for the header. -/
theorem header_eq_null {before after : List Plan.Parameter} {p : Plan.Parameter} {name : String}
    (hsplit : argumentParameters op = before ++ p :: after) (hname : p.wireName? = some name)
    (hvalue : valueFor? args p.name p.optional = some .null)
    (hafter : ∀ q ∈ after, q.wireName? = some name → valueFor? args q.name q.optional = none) :
    r.headers.get? name = some "null" := by
  rw [header_eq hr, headerTexts, hsplit]
  refine getLast?_filterMap_of_split ?_ fun q hq => ?_
  · rw [if_pos hname, hvalue, Option.map_some, scalarText_eq_sentText, sentText]
  · split
    · next hwire => rw [hafter q hq hwire, Option.map_none]
    · rfl

/-- A null for the body that is required is sent, unless a later parameter has a value for the body. -/
theorem body_eq_null {before after : List Plan.Parameter} {p : Plan.Parameter}
    (hsplit : argumentParameters op = before ++ p :: after) (hbody : p.slot = .body)
    (hvalue : valueFor? args p.name p.optional = some .null)
    (hafter : ∀ q ∈ after, q.slot = .body → valueFor? args q.name q.optional = none) : r.body = some .null := by
  rw [body_eq hr, bodyValues, hsplit]
  refine getLast?_filterMap_of_split ?_ fun q hq => ?_
  · rw [if_pos hbody, hvalue]
  · split
    · next hslot => exact hafter q hq hslot
    · rfl

end Sent

section Declared

variable {path : String} {group : Option String} {decl : Service.Operation} {o : Plan.Operation}
  (h : shapeOperation path group decl = .ok o)
include h

/-- A null for a required parameter is sent as the text `null`, if not in the body. -/
theorem request_insert_null {p : Plan.Parameter} (hp : p ∈ argumentParameters o) (hbody : p.slot ≠ .body)
    (hoptional : p.optional = false) (hnull : args.get? p.name = some .null) :
    request o (args.insert p.name (.string "null")) = request o args := by
  refine request_congr fun q hq => ?_
  by_cases hname : q.name = p.name
  · obtain rfl : q = p := List.inj_on_of_nodup_map (Plan.nodup_names_argumentParameters h) hq hp hname
    have hsent : ∀ value, scalarText value = "null" →
        Except.map (Option.map (sentValue q)) (.ok (some value)) =
          (.ok (some (.string "null")) : Except CallError (Option Json)) := by
      intro value hvalue
      rw [Except.map, Option.map_some, sentValue, if_neg hbody, hvalue]
    have htext : argument (args.insert q.name (.string "null")) q = .ok (some (.string "null")) := by
      rw [argument, Dict.get?_insert, if_pos rfl]
    have hvalue : argument args q = .ok (some .null) := by simp [argument, hnull, hoptional]
    rw [sentArgument, htext, sentArgument, hvalue, hsent _ rfl, hsent _ rfl]
  · have hother : (args.insert p.name (.string "null")).get? q.name = args.get? q.name := by
      rw [Dict.get?_insert, if_neg hname]
    rw [sentArgument, argument_congr hother, sentArgument]

theorem request_congr_declared (hagree : ∀ p ∈ decl.parameters, args'.get? p.name = args.get? p.name) :
    request o args' = request o args := by
  refine request_congr fun q hq => ?_
  obtain ⟨p, hp, hpq⟩ := exists_mem_of_forall₂ (Plan.shaped_argumentParameters h) hq
  have hgiven := hagree p ((Plan.callOrder_perm _).subset hp)
  rw [← Plan.name_of_shapeParameter hpq] at hgiven
  rw [sentArgument, argument_congr hgiven, sentArgument]

/-- What a call needs and what it sends, for any arguments. -/
theorem request_spec (args : Arguments) :
    (argumentParameters o).map Plan.Parameter.name = (callOrder decl.parameters).map Service.Parameter.name ∧
      ((∃ e, request o args = .error e) ↔ ∃ p ∈ o.clientParameters ++ o.parameters,
        p.isOptions = false ∧ p.optional = false ∧ args.get? p.name = none) ∧
      (∀ e, request o args = .error e ↔
        ∃ p, (argumentParameters o).find? (isMissing args) = some p ∧ e = .missingArgument p.name) ∧
      (∀ keep : Plan.Parameter → Bool,
        (∀ p ∈ o.clientParameters ++ o.parameters, keep p = false →
          p.optional = true ∧ (args.get? p.name = none ∨ args.get? p.name = some .null)) →
        request (keeping keep o) args = request o args) ∧
      (∀ p ∈ argumentParameters o, p.optional = false → args.get? p.name = some .null → p.slot ≠ .body →
        request o (args.insert p.name (.string "null")) = request o args) ∧
      (∀ p ∈ argumentParameters o, p.optional = false → args.get? p.name = some .null →
        (p, "null") ∈ valueTexts o args) ∧
      (∀ r, request o args = .ok r →
        r = sending o (valueTexts o args) (bodyValues o args).getLast? ∧
        (∀ before p after name, argumentParameters o = before ++ p :: after → p.optional = false →
          args.get? p.name = some .null → p.wireName? = some name →
          (∀ q ∈ after, q.wireName? = some name → valueFor? args q.name q.optional = none) →
          r.headers.get? name = some "null") ∧
        (∀ before p after, argumentParameters o = before ++ p :: after → p.optional = false →
          args.get? p.name = some .null → p.slot = .body →
          (∀ q ∈ after, q.slot = .body → valueFor? args q.name q.optional = none) → r.body = some .null) ∧
        r.body = (bodyValues o args).getLast? ∧
        ∀ name, r.headers.get? name = (headerTexts o args name).getLast?) ∧
      ∀ args' : Arguments, (∀ p ∈ decl.parameters, args'.get? p.name = args.get? p.name) →
        request o args' = request o args := by
  refine ⟨Plan.names_argumentParameters h, exists_request_eq_error_iff, fun e => request_eq_error_iff,
    fun keep hkeep => request_keeping hkeep, ?_, fun p => null_mem_valueTexts,
    fun r hr => ⟨request_eq_sending hr, ?_, ?_, body_eq hr, header_eq hr⟩, fun args' => request_congr_declared h⟩
  · intro p hp hoptional hnull hbody
    exact request_insert_null h hp hbody hoptional hnull
  · intro before p after name hsplit hoptional hnull hname hafter
    refine header_eq_null hr hsplit hname ?_ hafter
    rw [hoptional, valueFor?_required, hnull]
  · intro before p after hsplit hoptional hnull hbody hafter
    refine body_eq_null hr hsplit hbody ?_ hafter
    rw [hoptional, valueFor?_required, hnull]

end Declared

/-- A toy is renamed, with a parameter of each kind; the two headers have one name on the wire. -/
def renameToy : Service.Operation where
  name := "renameToy"
  method := .put
  description := none
  response := ⟨"Toy", []⟩
  parameters :=
    [⟨"toy", "string", "path", false, false, none, false⟩, ⟨"mode", "string", "query", false, false, none, false⟩,
      ⟨"colour", "string", "query", false, true, none, false⟩,
      ⟨"first", "string", "header", false, false, some "x-name", false⟩,
      ⟨"last", "string", "header", false, false, some "x-name", false⟩,
      ⟨"content", "Toy", "body", false, false, none, false⟩]
  longRunning := none
  paging := none

def plannedRename : Plan.Operation :=
  Plan.plannedOperation "renameToy" "/toys/\x7btoy\x7d" none renameToy
    [(false, ⟨"toy", "string", false, .path⟩), (false, ⟨"mode", "string", false, .query false⟩),
      (false, ⟨"colour", "string", true, .query false⟩), (false, ⟨"first", "string", false, .header "x-name"⟩),
      (false, ⟨"last", "string", false, .header "x-name"⟩), (false, ⟨"content", "Toy", false, .body⟩)]

/-- The region, which the client binds, is missed before the name. An argument that is not declared does not matter. A
null stands in the path, the query and a header as `null`, and in the body as it is. -/
theorem request_spec_toy :
    (let args : Arguments :=
      .ofList [("owner", .string "o"), ("a&b", .string "c"), ("region", .string "r"), ("toy", .null)]
     request plannedToy (.ofList [("toy", .null), ("colour", .null)]) = .error (.missingArgument "region") ∧
       request plannedToy (.ofList [("x", .null), ("toy", .null), ("region", .string "r"), ("a&b", .string "c"),
         ("owner", .string "o")]) = request plannedToy args ∧
       request plannedToy (args.insert "toy" (.string "null")) = request plannedToy args) ∧
    (let args : Arguments :=
      .ofList [("toy", .null), ("mode", .null), ("colour", .null), ("first", .string "a"), ("last", .null),
        ("content", .null)]
     ∃ r, request plannedRename args = .ok r ∧ r.url = "/toys/null?mode=null" ∧
       r.headers.get? "x-name" = some "null" ∧ r.body = some .null) := by
  refine ⟨?_, ?_⟩
  · intro args
    obtain ⟨_, _, herror, _, _, _, _, _⟩ :=
      request_spec shapeOperation_findToy (.ofList [("toy", .null), ("colour", .null)])
    obtain ⟨_, _, _, _, hnull, _, _, hagree⟩ := request_spec shapeOperation_findToy args
    refine ⟨(herror _).2 ⟨⟨"region", "string", false, .query false⟩, rfl, rfl⟩, hagree _ ?_, ?_⟩
    · simp only [findToy, List.forall_mem_cons]
      exact ⟨rfl, rfl, rfl, rfl, rfl, by simp⟩
    · exact hnull ⟨"toy", "string", false, .path⟩ (by decide) rfl rfl (by decide)
  · intro args
    have hshape : shapeOperation "/toys/\x7btoy\x7d" none renameToy = .ok plannedRename := rfl
    obtain ⟨r, hr⟩ : ∃ r, request plannedRename args = .ok r := ⟨_, rfl⟩
    obtain ⟨_, _, _, _, _, _, hsent, _⟩ := request_spec hshape args
    obtain ⟨hsending, hheader, _, hbody, _⟩ := hsent r hr
    have hurl : (sending plannedRename (valueTexts plannedRename args) (bodyValues plannedRename args).getLast?).url =
        "/toys/null?mode=null" := by
      decide
    refine ⟨r, hr, hsending ▸ hurl, ?_, hbody.trans rfl⟩
    exact hheader [_, _, _, _] ⟨"last", "string", false, .header "x-name"⟩ [_] "x-name" rfl rfl rfl rfl (by decide)

end Call

end ClientGen
