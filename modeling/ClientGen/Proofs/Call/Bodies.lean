import ClientGen.Proofs.Call.Sent
import ClientGen.Proofs.Emission.Agreement

/-!
# The body of a request

The functions that are emitted to send a request write the first parameter for the body into it. A request that is built
carries the value of the last one. For an operation with at most one such parameter that is the same.
-/

namespace ClientGen

namespace Call

open Plan (shapeOperation)

/-! ## What is emitted -/

/-- The line of a sending function for the body of the request, if it has one. -/
def bodyLineFor (p : Option Plan.Parameter) : List String := p.toList.map fun p => "    body: " ++ p.name ++ ","

theorem bodyTexts_eq_bodyLineFor (op : Plan.Operation) : Declarative.bodyTexts op = bodyLineFor op.bodyParameter? := by
  unfold Declarative.bodyTexts
  cases op.bodyParameter? <;> rfl

/-- A template leaves out a parameter without a name. -/
theorem bodyLine_eq_bodyLineFor (op : Plan.Operation) :
    Baseline.bodyLine op = bodyLineFor (op.bodyParameter?.filter fun p => p.name ≠ "") := by
  unfold Baseline.bodyLine
  cases op.bodyParameter? with
  | none => rfl
  | some p => by_cases hname : p.name = "" <;> simp [bodyLineFor, Option.filter, hname]

theorem bodyLineFor_filter_eq_iff {p : Option Plan.Parameter} :
    bodyLineFor (p.filter fun p => p.name ≠ "") = bodyLineFor p ↔ ∀ q, p = some q → q.name ≠ "" := by
  cases p with
  | none => simp [bodyLineFor]
  | some p => by_cases hname : p.name = "" <;> simp [bodyLineFor, Option.filter, hname]

section Emitted

variable {path : String} {group : Option String} {decl : Service.Operation} {o : Plan.Operation}
  (h : shapeOperation path group decl = .ok o)
include h

theorem content_eq_of_emit_operationFile {m : Service.Model} {file : GeneratedFile}
    (hfile : Declarative.emit (.operationFile (Plan.operationFile m o)) = .ok file) :
    file.content = (Outline.ofOperationFileWith (bodyLineFor o.bodyParameter?) (Plan.operationFile m o)).write
      Comment.starred := by
  rw [Declarative.emit, Declarative.rendered_eq_ok_iff] at hfile
  have hrendered := Declarative.render_operationFile (Source.distinctSymbols_of_render hfile.2)
    (entries_operationImports_ne_nil o) (Plan.parameterFree_operationImports o) (Plan.regular_of_shapeOperation h)
  rw [← bodyTexts_eq_bodyLineFor]
  exact Except.ok.inj (hfile.2.symm.trans hrendered)

omit h in
theorem emit_baseline_operationFile (f : Plan.OperationFile) :
    Baseline.emit (.operationFile f) = .ok ⟨f.path, (Outline.ofOperationFileWith
      (bodyLineFor (f.operation.bodyParameter?.filter fun p => p.name ≠ "")) f).write Comment.slashed⟩ := by
  rw [Outline.emit_baseline_eq, Outline.ofPart_eq, Outline.ofPartWith, bodyLine_eq_bodyLineFor]
  rfl

end Emitted

/-! ## What is requested -/

/-- Every parameter for the body that is given at each call has a value other than null. -/
def GivesBodies (args : Arguments) (op : Plan.Operation) : Prop :=
  ∀ p ∈ op.parametersAt .body, ∃ value, args.get? p.name = some value ∧ value ≠ .null

variable {args : Arguments} {op : Plan.Operation}

theorem location?_eq_body (p : Plan.Parameter) : (p.location? == some .body) = (p.slot == .body) := by
  unfold Plan.Parameter.location?
  cases p.slot <;> rfl

section Given

variable (hclient : ∀ p ∈ op.clientParameters, p.slot ≠ .body)
include hclient

theorem argumentParameters_filter_body :
    (argumentParameters op).filter (fun p => p.slot == .body) = op.parametersAt .body := by
  have hnone : op.clientParameters.filter (fun p => p.slot == .body) = [] := by
    rw [List.filter_eq_nil_iff]
    intro p hp
    simpa using hclient p hp
  have hslot : ∀ p : Plan.Parameter, (p.slot == .body && !p.isOptions) = (p.slot == .body) := by
    intro p
    unfold Plan.Parameter.isOptions
    cases p.slot <;> rfl
  simp only [argumentParameters, List.filter_filter, hslot, List.filter_append, hnone, List.nil_append,
    Plan.Operation.parametersAt, location?_eq_body]

theorem bodyValues_eq : bodyValues op args =
    (op.parametersAt .body).filterMap fun p => valueFor? args p.name p.optional := by
  rw [← argumentParameters_filter_body hclient, List.filterMap_filter, bodyValues]
  simp only [beq_iff_eq]

variable (hgiven : GivesBodies args op) {r : Request} (hr : request op args = .ok r)
include hgiven hr

/-- The body of a request is the value of the last parameter for it. -/
theorem body_eq_last : r.body = (op.parametersAt .body).getLast?.bind fun p => args.get? p.name := by
  rw [body_eq hr, bodyValues_eq hclient]
  rcases List.eq_nil_or_concat (op.parametersAt .body) with hnil | ⟨before, p, hsplit⟩
  · rw [hnil]
    rfl
  · have hp : p ∈ op.parametersAt .body := by simp [hsplit]
    obtain ⟨value, hvalue, hne⟩ := hgiven p hp
    have hsent : valueFor? args p.name p.optional = some value := by
      unfold valueFor?
      rw [hvalue]
      cases value <;> first | rfl | exact absurd rfl hne
    rw [hsplit, List.concat_eq_append, List.filterMap_append, List.getLast?_append, List.getLast?_append]
    simp [hsent, hvalue]

theorem body_eq_none_iff : r.body = none ↔ op.bodyParameter? = none := by
  rw [body_eq_last hclient hgiven hr, Plan.Operation.bodyParameter?, List.head?_eq_none_iff]
  rcases List.eq_nil_or_concat (op.parametersAt .body) with hnil | ⟨before, p, hsplit⟩
  · simp [hnil]
  · have hp : p ∈ op.parametersAt .body := by simp [hsplit]
    obtain ⟨value, hvalue, _⟩ := hgiven p hp
    simp [hsplit, hvalue]

end Given

section Declared

variable {path : String} {group : Option String} {decl : Service.Operation} {o : Plan.Operation}
  (h : shapeOperation path group decl = .ok o) (hclient : ∀ p ∈ o.clientParameters, p.slot ≠ .body)
include h hclient

theorem nodup_names_parametersAt_body : ((o.parametersAt .body).map Plan.Parameter.name).Nodup := by
  rw [← argumentParameters_filter_body hclient]
  exact (Plan.nodup_names_argumentParameters h).sublist (List.filter_sublist.map _)

/-- A call that gives each parameter its own name. -/
theorem exists_request_names : ∃ args r, request o args = .ok r ∧
    ∀ p ∈ o.parametersAt .body, args.get? p.name = some (.string p.name) := by
  obtain ⟨args, r, hr, hargs⟩ := Plan.exists_request h id
  refine ⟨args, r, hr, fun q hq => ?_⟩
  rw [← argumentParameters_filter_body hclient] at hq
  obtain ⟨p, hp, hpq⟩ := exists_mem_of_forall₂ (Plan.shaped_argumentParameters h) (List.mem_of_mem_filter hq)
  rw [Plan.name_of_shapeParameter hpq]
  exact hargs p ((Plan.callOrder_perm _).subset hp)

/-- The request carries the parameter that is emitted exactly if there are not two to choose from. -/
theorem forall_body_eq_iff :
    (∀ args r, GivesBodies args o → request o args = .ok r →
      r.body = o.bodyParameter?.bind fun p => args.get? p.name) ↔ (o.parametersAt .body).length ≤ 1 := by
  constructor
  · intro hagree
    obtain ⟨args, r, hr, hnames⟩ := exists_request_names h hclient
    have hgiven : GivesBodies args o := fun p hp => ⟨_, hnames p hp, by simp⟩
    have hsame := (body_eq_last hclient hgiven hr).symm.trans (hagree args r hgiven hr)
    have hnodup := nodup_names_parametersAt_body h hclient
    unfold Plan.Operation.bodyParameter? at hsame
    generalize o.parametersAt .body = ps at hnames hsame hnodup
    cases ps with
    | nil => simp
    | cons p rest =>
      rcases List.eq_nil_or_concat rest with rfl | ⟨between, q, rfl⟩
      · simp
      · -- the last parameter has the name of the first one, which no other has
        have hp := hnames p (by simp)
        have hq := hnames q (by simp)
        have hlast : (p :: between.concat q).getLast? = some q := by
          rw [List.concat_eq_append, ← List.cons_append, List.getLast?_concat]
        rw [hlast, List.head?_cons, Option.bind_some, Option.bind_some, hp, hq] at hsame
        have hname : q.name = p.name := by simpa using hsame
        rw [List.map_cons, List.nodup_cons] at hnodup
        exact absurd (List.mem_map.2 ⟨q, by simp, hname⟩) hnodup.1
  · intro hone args r hgiven hr
    rw [body_eq_last hclient hgiven hr, Plan.Operation.bodyParameter?]
    generalize o.parametersAt .body = ps at hone
    match ps, hone with
    | [], _ => rfl
    | [p], _ => rfl

/-- Both sending functions write the first parameter for the body, the templates only if it has a name. A request that
is built carries the value of the last one, and has a body exactly if there is one. The two choose the same parameter
exactly if there is at most one. -/
theorem body_spec :
    (∀ m file, Declarative.emit (.operationFile (Plan.operationFile m o)) = .ok file →
      file.content = (Outline.ofOperationFileWith (bodyLineFor o.bodyParameter?) (Plan.operationFile m o)).write
        Comment.starred) ∧
      (∀ m, Baseline.emit (.operationFile (Plan.operationFile m o)) =
        .ok ⟨(Plan.operationFile m o).path, (Outline.ofOperationFileWith
          (bodyLineFor (o.bodyParameter?.filter fun p => p.name ≠ "")) (Plan.operationFile m o)).write
            Comment.slashed⟩) ∧
      (bodyLineFor (o.bodyParameter?.filter fun p => p.name ≠ "") = bodyLineFor o.bodyParameter? ↔
        ∀ p, o.bodyParameter? = some p → p.name ≠ "") ∧
      (∀ args r, GivesBodies args o → request o args = .ok r →
        r.body = ((o.parametersAt .body).getLast?.bind fun p => args.get? p.name) ∧
          (r.body = none ↔ o.bodyParameter? = none)) ∧
      ((∀ args r, GivesBodies args o → request o args = .ok r →
        r.body = o.bodyParameter?.bind fun p => args.get? p.name) ↔ (o.parametersAt .body).length ≤ 1) := by
  refine ⟨fun m file hfile => content_eq_of_emit_operationFile h hfile,
    fun m => emit_baseline_operationFile (Plan.operationFile m o), bodyLineFor_filter_eq_iff,
    fun args r hgiven hr => ?_, forall_body_eq_iff h hclient⟩
  exact ⟨body_eq_last hclient hgiven hr, body_eq_none_iff hclient hgiven hr⟩

end Declared

def sendThings : Service.Operation where
  name := "sendThings"
  method := .post
  description := none
  response := ⟨"void", []⟩
  parameters :=
    [⟨"draft", "string", "body", false, false, none, false⟩]
  longRunning := none
  paging := none

def plannedSendThings : Plan.Operation :=
  Plan.plannedOperation "sendThings" "/things" none sendThings [(false, ⟨"draft", "string", false, .body⟩)]

theorem body_spec_draft : shapeOperation "/things" none sendThings = .ok plannedSendThings ∧
    ∀ args r, GivesBodies args plannedSendThings → request plannedSendThings args = .ok r →
      r.body = args.get? "draft" := by
  have hplan : shapeOperation "/things" none sendThings = .ok plannedSendThings := rfl
  obtain ⟨_, _, _, _, hagree⟩ := body_spec hplan (by decide)
  exact ⟨hplan, hagree.2 (by decide)⟩

/-- With a second parameter for the body. -/
def sendFinalThings : Service.Operation :=
  { sendThings with parameters := sendThings.parameters ++ [⟨"final", "string", "body", false, false, none, false⟩] }

def plannedSendFinalThings : Plan.Operation :=
  Plan.plannedOperation "sendThings" "/things" none sendFinalThings
    [(false, ⟨"draft", "string", false, .body⟩), (false, ⟨"final", "string", false, .body⟩)]

/-- The emitted functions send the draft, and the request that is built carries the final text. -/
theorem body_overwritten : shapeOperation "/things" none sendFinalThings = .ok plannedSendFinalThings ∧
    plannedSendFinalThings.clientParameters = [] ∧
    Declarative.bodyTexts plannedSendFinalThings = ["    body: draft,"] ∧
    Baseline.bodyLine plannedSendFinalThings = ["    body: draft,"] ∧
    ∃ args r, GivesBodies args plannedSendFinalThings ∧ request plannedSendFinalThings args = .ok r ∧
      args.get? "draft" = some (.string "a") ∧ r.body = some (.string "b") := by
  refine ⟨rfl, rfl, rfl, rfl, .ofList [("draft", .string "a"), ("final", .string "b")], _, ?_, rfl, rfl, rfl⟩
  intro p hp
  have hbodies : plannedSendFinalThings.parametersAt .body =
      [⟨"draft", "string", false, .body⟩, ⟨"final", "string", false, .body⟩] := rfl
  rw [hbodies] at hp
  rcases List.mem_pair.1 hp with rfl | rfl
  · exact ⟨.string "a", rfl, by simp⟩
  · exact ⟨.string "b", rfl, by simp⟩

end Call

end ClientGen
