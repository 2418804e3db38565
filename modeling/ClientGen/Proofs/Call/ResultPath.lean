import ClientGen.Call.Transport
import ClientGen.Proofs.Call.Bodies
import ClientGen.Proofs.Dict
import ClientGen.Proofs.Text.Lines
import ClientGen.Proofs.Text.Search
import ClientGen.Proofs.Text.Words

/-!
# The path of a result

The path that a model gives for the result of a long-running operation is cut into segments. They are followed into the
body of the final response when an operation is called, and the function that is emitted to read the response has them
behind the body as an accessor. That accessor, read as a path, has the same segments again, so that both come to the
same place.
-/

namespace ClientGen

/-! ## Segments and accessors -/

namespace Plan

/-- What a path can be cut into: a text that is not empty, with no dot in it and no blanks at its ends. -/
structure IsSegment (s : String) : Prop where
  ne_empty : s ≠ ""
  dotless : '.' ∉ s.toList
  trimmed : Text.trim s.toList = s.toList

theorem isSegment_of_mem_accessPath {text s : String} (h : s ∈ accessPath text) : IsSegment s := by
  obtain ⟨segment, hsegment, rfl⟩ := List.mem_map.1 h
  obtain ⟨hmem, hne⟩ := List.mem_filter.1 hsegment
  obtain ⟨piece, hpiece, rfl⟩ := List.mem_map.1 hmem
  constructor
  · intro hempty
    rw [String.ofList_eq_empty_iff.1 hempty] at hne
    cases hne
  · rw [String.toList_ofList]
    intro hdot
    have huncut := Text.of_mem_cut hpiece ((Text.trim_isInfix piece).subset hdot)
    cases huncut
  · rw [String.toList_ofList, Text.trim_trim]

variable {l : LongRunning}

theorem accessor_eq_joined (l : LongRunning) : l.accessor = Text.joined "." ("" :: l.resultPath) := by
  rw [Text.joined_cons, String.empty_append]
  rfl

/-- Between its dots an accessor has the segments as they are. -/
theorem cut_accessor (h : ∀ s ∈ l.resultPath, IsSegment s) :
    Text.cut (· == '.') l.accessor.toList = [] :: l.resultPath.map String.toList := by
  have hdotless : ∀ s ∈ "" :: l.resultPath, '.' ∉ s.toList := by
    rw [List.forall_mem_cons]
    exact ⟨by simp, fun s hs => (h s hs).dotless⟩
  rw [accessor_eq_joined]
  exact Text.cut_joined (by simp) hdotless

/-- An accessor is a path with the segments of which it is made. -/
theorem accessPath_accessor (h : ∀ s ∈ l.resultPath, IsSegment s) : accessPath l.accessor = l.resultPath := by
  have htrimmed : (l.resultPath.map String.toList).map Text.trim = l.resultPath.map String.toList := by
    rw [List.map_map]
    exact List.map_congr_left fun s hs => (h s hs).trimmed
  have hkept : ∀ segment ∈ l.resultPath.map String.toList, (!segment.isEmpty) = true := by
    rw [List.forall_mem_map]
    intro s hs
    simpa using (h s hs).ne_empty
  rw [accessPath, cut_accessor h, List.map_cons, htrimmed]
  -- What stands before the first dot is empty and counts for nothing.
  rw [List.filter_cons_of_neg (by decide), List.filter_eq_self.2 hkept, List.map_map]
  simp [Function.comp_def]

theorem accessor_eq_empty_iff (l : LongRunning) : l.accessor = "" ↔ l.resultPath = [] := by
  unfold LongRunning.accessor
  cases l.resultPath with
  | nil => simp
  | cons s rest => simp

end Plan

namespace Call

open Plan (accessPath shapeOperation)

/-! ## What is emitted -/

/-- The function that reads a response, with what stands behind the body. -/
def readingLines (op : Plan.Operation) (accessor : String) : List String :=
  ["export async function " ++ op.deserializeName ++ "(result: PathUncheckedResponse): " ++ op.deserializeType ++
     " \x7b",
   "  const expectedStatuses = " ++ Json.quotedList op.expectedStatuses ++ ";",
   "  if (!expectedStatuses.includes(result.status)) \x7b",
   "    throw createRestError(result);",
   "  \x7d",
   "",
   "  return result.body" ++ accessor ++ ";",
   "\x7d"]

/-- A file has the function that reads a response, with an accessor behind the body. -/
def ReadsWith (op : Plan.Operation) (accessor content : String) : Prop :=
  ∃ before after : String, content = before ++ Text.unlines (readingLines op accessor) ++ after

theorem readsWith_ofOperationFileWith (style : Comment → String) (bodyLine : List String) {f : Plan.OperationFile}
    {l : Plan.LongRunning} (hl : f.operation.longRunning = some l) :
    ReadsWith f.operation l.accessor ((Outline.ofOperationFileWith bodyLine f).write style) := by
  have haccessor : Baseline.resultAccessor f.operation = l.accessor := by rw [Baseline.resultAccessor, hl]
  have hreading : Baseline.deserializeLines f.operation = readingLines f.operation l.accessor := by
    rw [← haccessor]
    rfl
  refine ⟨Text.unlines (f.imports.statements ++ [""] ++
      Outline.sendLinesWith bodyLine f.operation f.contextType ++ [""]),
    "\n" ++ (Outline.described "" f.operation.description).write style ++
      Text.unlines (Baseline.callLines f.operation f.contextType), ?_⟩
  simp [Outline.ofOperationFileWith, hreading, String.append_assoc]

/-! ## What is extracted -/

/-- A path leads from a value to another one, through an object at each of its steps. -/
inductive Reaches : Json → List String → Json → Prop
  | here (j : Json) : Reaches j [] j
  | member {members : List (String × Json)} {name : String} {rest : List String} {j k : Json} :
    Dict.find? name members = some j → Reaches j rest k → Reaches (.object members) (name :: rest) k

variable {path : List String} {body j : Json}

theorem follow?_eq_some_iff : follow? path body = some j ↔ Reaches body path j := by
  constructor
  · intro h
    induction path generalizing body with
    | nil =>
      obtain rfl := Option.some.inj h
      exact .here body
    | cons name rest ih =>
      obtain ⟨k, hk, hrest⟩ := Option.bind_eq_some_iff.1 h
      cases body with
      | object members => exact .member hk (ih hrest)
      | null | bool | int | double | string | array | unreadable => cases hk
  · intro h
    induction h with
    | here j => rfl
    | member hfind _ ih => rw [follow?, Json.get?, hfind, Option.bind_some, ih]

theorem follow?_append (first rest : List String) (body : Json) :
    follow? (first ++ rest) body = (follow? first body).bind (follow? rest) := by
  induction first generalizing body with
  | nil => rfl
  | cons name first ih =>
    rw [List.cons_append, follow?, follow?, Option.bind_assoc]
    exact congrArg _ (funext ih)

theorem sizeOf_lt_of_find? {members : List (String × Json)} {name : String} (h : Dict.find? name members = some j) :
    sizeOf j < sizeOf (Json.object members) := by
  have hmember := List.sizeOf_lt_of_mem (Dict.mem_of_find?_eq_some h)
  rw [Prod.mk.sizeOf_spec] at hmember
  rw [Json.object.sizeOf_spec]
  omega

/-- Each step of a path leaves something behind. -/
theorem Reaches.length_add_sizeOf_le (h : Reaches body path j) : path.length + sizeOf j ≤ sizeOf body := by
  induction h with
  | here j => simp
  | member hfind _ ih =>
    have hsmaller := sizeOf_lt_of_find? hfind
    rw [List.length_cons]
    omega

theorem extract_eq_ok_iff : extract body path = .ok j ↔ Reaches body path j := by
  rw [← follow?_eq_some_iff, extract]
  cases follow? path body <;> simp

theorem extract_eq_error_iff {e : CallError} :
    extract body path = .error e ↔
      e = .missingResultPath (Text.joined "." path) ∧ ∀ j, ¬ Reaches body path j := by
  simp only [← follow?_eq_some_iff, extract]
  cases follow? path body <;> simp [eq_comm]

/-- Only the empty path leads to all of a value. -/
theorem extract_eq_ok_self_iff : extract body path = .ok body ↔ path = [] := by
  rw [extract_eq_ok_iff]
  constructor
  · intro h
    have hsize := h.length_add_sizeOf_le
    exact List.eq_nil_of_length_eq_zero (by omega)
  · rintro rfl
    exact .here body

/-- A path is followed part by part; where one part of it fails, the whole path is missing. -/
theorem extract_append (body : Json) (first rest : List String) :
    extract body (first ++ rest) = (extract body first >>= fun j => extract j rest).mapError fun _ =>
      .missingResultPath (Text.joined "." (first ++ rest)) := by
  simp only [extract, follow?_append]
  cases follow? first body with
  | none => rfl
  | some j =>
    rw [Option.bind_some, ok_bind]
    cases follow? rest j <;> rfl

theorem deserialize_of_expected {op : Plan.Operation} {r : Response} (h : toString r.status ∈ op.expectedStatuses) :
    deserialize op r = extract r.body (resultPath op) := by
  rw [deserialize, if_pos (List.contains_iff_mem.2 h)]

/-! ## Both at the same place -/

section Declared

variable {path : String} {group : Option String} {decl : Service.Operation} {o : Plan.Operation}
  {l : Service.LongRunning} {text : String} (h : shapeOperation path group decl = .ok o)
  (hl : decl.longRunning = some l) (htext : l.finalResultPath = some text)
include h hl htext

theorem exists_longRunning_of_shapeOperation :
    ∃ shape, o.longRunning = some shape ∧ shape.resultPath = accessPath text := by
  obtain ⟨_, shaped, _, rfl⟩ := Plan.shapeOperation_eq_ok_iff.1 h
  refine ⟨Plan.shapeLongRunning decl.response.type l, by rw [Plan.plannedOperation, hl, Option.map_some], ?_⟩
  rw [Plan.shapeLongRunning, htext]
  rfl

/-- Both ways of emitting put one accessor behind the body of a response, and read as a path it has the segments of the
path of the result. It is empty exactly if all of the body is the result, and the result is always what its segments
lead to. What they lead to is extracted, and nothing is where they lead nowhere; a path is followed part by part. -/
theorem result_path_spec :
    ∃ shape, o.longRunning = some shape ∧ shape.resultPath = accessPath text ∧
      (∀ m file, Declarative.emit (.operationFile (Plan.operationFile m o)) = .ok file →
        ReadsWith o shape.accessor file.content) ∧
      (∀ m, ∃ file, Baseline.emit (.operationFile (Plan.operationFile m o)) = .ok file ∧
        ReadsWith o shape.accessor file.content) ∧
      accessPath shape.accessor = accessPath text ∧
      (∀ r, toString r.status ∈ o.expectedStatuses →
        (shape.accessor = "" ↔ deserialize o r = .ok r.body) ∧
          ∀ j, deserialize o r = .ok j ↔ Reaches r.body (accessPath shape.accessor) j) ∧
      (∀ body j, extract body (accessPath text) = .ok j ↔ Reaches body (accessPath text) j) ∧
      (∀ body e, extract body (accessPath text) = .error e ↔
        e = .missingResultPath (Text.joined "." (accessPath text)) ∧ ∀ j, ¬ Reaches body (accessPath text) j) ∧
      ∀ body first rest, extract body (first ++ rest) =
        (extract body first >>= fun j => extract j rest).mapError fun _ =>
          .missingResultPath (Text.joined "." (first ++ rest)) := by
  obtain ⟨shape, hshape, hpath⟩ := exists_longRunning_of_shapeOperation h hl htext
  have hsegments : ∀ s ∈ shape.resultPath, Plan.IsSegment s := fun s hs =>
    Plan.isSegment_of_mem_accessPath (hpath ▸ hs)
  have hread : accessPath shape.accessor = shape.resultPath := Plan.accessPath_accessor hsegments
  have hresult : resultPath o = shape.resultPath := by rw [resultPath, hshape]
  refine ⟨shape, hshape, hpath, ?_, ?_, hread.trans hpath, ?_, fun body j => extract_eq_ok_iff,
    fun body e => extract_eq_error_iff, extract_append⟩
  · intro m file hfile
    rw [content_eq_of_emit_operationFile h hfile]
    exact readsWith_ofOperationFileWith _ _ hshape
  · intro m
    exact ⟨_, emit_baseline_operationFile (Plan.operationFile m o), readsWith_ofOperationFileWith _ _ hshape⟩
  · intro r hr
    rw [deserialize_of_expected hr, hresult, hread, extract_eq_ok_self_iff]
    exact ⟨Plan.accessor_eq_empty_iff shape, fun j => extract_eq_ok_iff⟩

end Declared

/-- A path with blanks and with dots that part nothing. -/
def makeReport : Service.Operation where
  name := "makeReport"
  method := .post
  description := none
  response := ⟨"Report", []⟩
  parameters := []
  longRunning := some ⟨none, some " . result.. final value."⟩
  paging := none

def plannedMakeReport : Plan.Operation := Plan.plannedOperation "makeReport" "/reports" none makeReport []

def finishedReport : Response := .plain 201 (.object [("result", .object [("pages", .int 3), ("final value", .int 7)])])

theorem result_path_spec_report : shapeOperation "/reports" none makeReport = .ok plannedMakeReport ∧
    makeReport.longRunning = some ⟨none, some " . result.. final value."⟩ ∧
    (∃ file, Declarative.emit (.operationFile (Plan.operationFile things plannedMakeReport)) = .ok file ∧
      ReadsWith plannedMakeReport ".result.final value" file.content) ∧
    (∃ file, Baseline.emit (.operationFile (Plan.operationFile things plannedMakeReport)) = .ok file ∧
      ReadsWith plannedMakeReport ".result.final value" file.content) ∧
    accessPath ".result.final value" = accessPath " . result.. final value." ∧
    deserialize plannedMakeReport finishedReport = .ok (.int 7) ∧
    deserialize plannedMakeReport finishedReport ≠ .ok finishedReport.body ∧
    extract (.object [("result", .null)]) (accessPath " . result.. final value.") =
      .error (.missingResultPath "result.final value") := by
  have hplan : shapeOperation "/reports" none makeReport = .ok plannedMakeReport := rfl
  have hsegments : accessPath " . result.. final value." = ["result", "final value"] := by decide
  obtain ⟨shape, hshape, hpath, hdeclarative, hbaseline, hread, hresult, _, hmissing, _⟩ :=
    result_path_spec hplan rfl rfl
  have haccessor : shape.accessor = ".result.final value" := by
    rw [Plan.LongRunning.accessor, hpath, hsegments]
    rfl
  rw [haccessor] at hdeclarative hbaseline hread hresult
  obtain ⟨hwhole, hreached⟩ := hresult finishedReport (by decide)
  obtain ⟨file, hfile⟩ : ∃ file,
      Declarative.emit (.operationFile (Plan.operationFile things plannedMakeReport)) = .ok file := by
    refine Declarative.exists_emit_of_all ?_ _ (List.mem_singleton_self _)
    decide +kernel
  refine ⟨hplan, rfl, ⟨file, hfile, hdeclarative things file hfile⟩, hbaseline things, hread, (hreached _).2 ?_, ?_,
    (hmissing _ _).2 ⟨?_, ?_⟩⟩
  · rw [hread, hsegments]
    exact .member rfl (.member rfl (.here (.int 7)))
  · exact fun hall => absurd (hwhole.2 hall) (by decide)
  · rw [hsegments]
    rfl
  · rw [hsegments]
    -- What stands under the first segment is no object.
    rintro j (_ | ⟨hfirst, hrest⟩)
    cases hfirst
    cases hrest

end Call

end ClientGen
