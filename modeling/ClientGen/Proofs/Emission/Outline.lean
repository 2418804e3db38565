import ClientGen.Baseline.Emitter
import ClientGen.Proofs.Text.Joined
import ClientGen.Source.Render

/-!
# The outline of a file

A file of source code is a sequence of pieces: code, and documentation comments between them. The two ways of emitting
differ only in how they write a comment, so that one outline stands behind both of their files.
-/

namespace ClientGen

/-- The parts of source code of a plan are the client definitions, the client class and a file for each operation. -/
theorem Plan.mem_sourceParts_iff {m : Service.Model} {ops : List Operation} {part : Part} :
    part ∈ sourceParts m ops ↔ part = .clientDefinitions (clientDefinitions m ops) ∨
      part = .clientClass (clientClass m ops) ∨ ∃ op ∈ ops, .operationFile (operationFile m op) = part := by
  simp only [sourceParts, operationParts, List.mem_cons, List.mem_map]

/-- What is said in a documentation comment, and the margin that it stands behind. -/
inductive Comment where
  /-- The description of an operation. -/
  | description (margin text : String)
  /-- What is said about a class or a route. -/
  | remark (margin text : String)
  deriving DecidableEq, Repr

namespace Comment

def margin : Comment → String
  | .description margin _ => margin
  | .remark margin _ => margin

def text : Comment → String
  | .description _ text => text
  | .remark _ text => text

/-- The lines that a template writes for a comment; it takes a remark as a single line. -/
def lines : Comment → List String
  | .description _ text => Text.linesOf text
  | .remark _ text => [text]

/-- The comment as a tree is rendered with it. -/
def starred (c : Comment) : String := Source.docComment (some c.text) c.margin

/-- The comment as a template writes it, each line behind two slashes. -/
def slashed (c : Comment) : String :=
  Text.unlines (c.lines.map fun line => c.margin ++ if line = "" then "//" else "// " ++ line)

end Comment

inductive Piece where
  | code (text : String)
  | comment (comment : Comment)
  deriving DecidableEq, Repr

namespace Piece

def text (style : Comment → String) : Piece → String
  | .code text => text
  | .comment c => style c

end Piece

/-- A file as code and comments in order. -/
abbrev Outline := List Piece

namespace Outline

/-- The text of an outline with its comments in a style. -/
def write (style : Comment → String) (o : Outline) : String := Text.concat (o.map (Piece.text style))

/-- The text of an outline with its comments erased. -/
def erased (o : Outline) : String := o.write fun _ => ""

/-- The texts of the comments, in order. -/
def docTexts (o : Outline) : List String := o.filterMap fun | .comment c => some c.text | .code _ => none

variable {style : Comment → String}

@[simp] theorem write_nil : write style [] = "" := rfl

@[simp] theorem write_cons (p : Piece) (o : Outline) : write style (p :: o) = p.text style ++ write style o := rfl

@[simp] theorem write_append (o o' : Outline) : write style (o ++ o') = write style o ++ write style o' := by
  simp [write]

theorem write_flatMap {α : Type} (f : α → Outline) (l : List α) :
    write style (l.flatMap f) = Text.concat (l.map fun a => write style (f a)) := by
  simp only [write, List.map_flatMap, Text.concat_flatMap]

@[simp] theorem docTexts_comment_cons (c : Comment) (o : Outline) :
    docTexts (.comment c :: o) = c.text :: docTexts o := rfl

@[simp] theorem docTexts_append (o o' : Outline) : docTexts (o ++ o') = docTexts o ++ docTexts o' :=
  List.filterMap_append

@[simp] theorem docTexts_flatMap {α : Type} (f : α → Outline) (l : List α) :
    docTexts (l.flatMap f) = l.flatMap fun a => docTexts (f a) := List.filterMap_flatMap

/-- A file without comments reads the same in every style. -/
theorem write_eq_erased_of_docTexts_eq_nil {o : Outline} (h : o.docTexts = []) : o.write style = o.erased := by
  induction o with
  | nil => rfl
  | cons p o ih =>
    cases p with
    | code text =>
      have ho : docTexts o = [] := h
      rw [write_cons, ih ho]
      rfl
    | comment c => cases h

/-- The comment for a description, if there is one. -/
def described (margin : String) (description : Option String) : Outline :=
  description.toList.map fun text => .comment (.description margin text)

def lines (texts : List String) : Outline := [.code (Text.unlines texts)]

def ofOperationFile (f : Plan.OperationFile) : Outline :=
  lines (f.imports.statements ++ [""] ++ Baseline.sendLines f.operation f.contextType ++ [""] ++
    Baseline.deserializeLines f.operation ++ [""]) ++
  described "" f.operation.description ++ lines (Baseline.callLines f.operation f.contextType)

/-- The body of the function that sends the request, with a line for the body of the request. -/
def sendBodyWith (bodyLine : List String) (op : Plan.Operation) : List String :=
  (if op.removesApiVersionPolicy then
    ["  context.pipeline.removePolicy(\x7b name: \"ClientApiVersionPolicy\" \x7d);"] else []) ++
  ["  return context.path(" ++ Baseline.pathArguments op ++ ")." ++ op.method.verb ++ "(\x7b",
   "    ...operationOptionsToRequestParameters(options),"] ++
  Baseline.membersLine "queryParameters" (Baseline.queryMembers op) ++
  Baseline.membersLine "headers" (Baseline.headerMembers op) ++ bodyLine ++ ["  \x7d);"]

def sendLinesWith (bodyLine : List String) (op : Plan.Operation) (contextType : String) : List String :=
  ["export function " ++ op.sendName ++ "(" ++ Baseline.declaredParameters op contextType ++
     "): StreamableMethod \x7b"] ++ sendBodyWith bodyLine op ++ ["\x7d"]

/-- The file of an operation with a line for the body of its request, which the two ways of emitting write differently
if the parameter for the body has no name. -/
def ofOperationFileWith (bodyLine : List String) (f : Plan.OperationFile) : Outline :=
  lines (f.imports.statements ++ [""] ++ sendLinesWith bodyLine f.operation f.contextType ++ [""] ++
    Baseline.deserializeLines f.operation ++ [""]) ++
  described "" f.operation.description ++ lines (Baseline.callLines f.operation f.contextType)

def ofMethod (op : Plan.Operation) : Outline :=
  lines [""] ++ described "  " op.description ++ lines (Baseline.methodCode op)

def ofClientClass (c : Plan.ClientClass) : Outline :=
  lines (c.imports.statements ++ [""]) ++ [.comment (.remark "" (Baseline.classRemark c))] ++
    lines (Baseline.classHead c) ++ c.operations.flatMap ofMethod ++ lines ["\x7d"]

def ofRoute (r : Plan.Route) : Outline :=
  [.comment (.remark "  " (Baseline.routeRemark r))] ++ lines [Baseline.routeCode r]

def ofGroupMember (op : Plan.Operation) : Outline :=
  described "  " op.description ++ lines [Baseline.groupMemberCode op]

def ofGroup (g : Plan.Group) : Outline :=
  lines ["", "export interface " ++ g.interfaceName ++ " \x7b"] ++ g.operations.flatMap ofGroupMember ++ lines ["\x7d"]

def ofClientDefinitions (d : Plan.ClientDefinitions) : Outline :=
  lines (d.imports.statements ++ [""] ++ ["export interface Routes \x7b"]) ++ d.routes.flatMap ofRoute ++
    lines ["\x7d"] ++ d.groups.flatMap ofGroup ++
    lines ["", "export type " ++ d.names.contextType ++ " = " ++ Baseline.clientType d ++ ";"]

@[simp] theorem docTexts_lines (texts : List String) : docTexts (lines texts) = [] := rfl

@[simp] theorem docTexts_described (margin : String) (description : Option String) :
    docTexts (described margin description) = description.toList := by
  cases description <;> rfl

/-- The outline of a part; a manifest has no comments. -/
def ofPart : Plan.Part → Outline
  | .packageJson m => [.code (Baseline.manifest m)]
  | .clientDefinitions d => ofClientDefinitions d
  | .clientClass c => ofClientClass c
  | .operationFile f => ofOperationFile f

/-- The outline of a part, given how the line for the body of a request is written. -/
def ofPartWith (bodyLine : Plan.Operation → List String) : Plan.Part → Outline
  | .packageJson m => [.code (Baseline.manifest m)]
  | .clientDefinitions d => ofClientDefinitions d
  | .clientClass c => ofClientClass c
  | .operationFile f => ofOperationFileWith (bodyLine f.operation) f

theorem ofPart_eq (part : Plan.Part) : ofPart part = ofPartWith Baseline.bodyLine part := by cases part <;> rfl

/-- What is documented in a part: routes, the class, and every operation that has a description. -/
def textsOf : Plan.Part → List String
  | .packageJson _ => []
  | .clientDefinitions d =>
    d.routes.map Baseline.routeRemark ++
      d.groups.flatMap fun g => g.operations.flatMap fun op => op.description.toList
  | .clientClass c => Baseline.classRemark c :: c.operations.flatMap fun op => op.description.toList
  | .operationFile f => f.operation.description.toList

theorem docTexts_ofPart (part : Plan.Part) : docTexts (ofPart part) = textsOf part := by
  cases part with
  | packageJson m => rfl
  | clientDefinitions d =>
    have hroute : ∀ r, docTexts (ofRoute r) = [Baseline.routeRemark r] := fun r => rfl
    simp [ofPart, ofClientDefinitions, ofGroup, ofGroupMember, textsOf, hroute, List.map_eq_flatMap]
  | clientClass c => simp [ofPart, ofClientClass, ofMethod, textsOf, Comment.text]
  | operationFile f => simp [ofPart, ofOperationFile, textsOf]

@[simp] theorem write_lines (texts : List String) : write style (lines texts) = Text.unlines texts := by
  simp [lines, Piece.text]

@[simp] theorem write_starred_described (margin : String) (description : Option String) :
    write Comment.starred (described margin description) = Source.docComment description margin := by
  cases description with
  | none => rfl
  | some text => simp [described, Piece.text, Comment.starred, Comment.text, Comment.margin]

/-! ## Templates write the outline with line comments -/

theorem write_slashed_described (margin : String) (op : Plan.Operation) :
    write Comment.slashed (described margin op.description) =
      Text.unlines ((Baseline.docComments op).map (margin ++ ·)) := by
  unfold described Baseline.docComments Plan.Operation.docLines
  cases op.description with
  | none => rfl
  | some text => simp [Piece.text, Comment.slashed, Comment.lines, Comment.margin, Function.comp_def]

theorem write_slashed_remark {margin text : String} (h : text ≠ "") :
    Piece.text Comment.slashed (.comment (.remark margin text)) = Text.unlines [margin ++ "// " ++ text] := by
  simp [Piece.text, Comment.slashed, Comment.lines, Comment.margin, h, String.append_assoc]

theorem write_slashed_ofOperationFile (f : Plan.OperationFile) :
    write Comment.slashed (ofOperationFile f) = Baseline.operationFile f := by
  have hdoc := write_slashed_described "" f.operation
  simp [ofOperationFile, Baseline.operationFile, hdoc, String.append_assoc]

theorem write_slashed_ofMethod (op : Plan.Operation) :
    write Comment.slashed (ofMethod op) = Text.unlines (Baseline.methodLines op) := by
  simp [ofMethod, Baseline.methodLines, write_slashed_described]

theorem write_slashed_ofClientClass (c : Plan.ClientClass) :
    write Comment.slashed (ofClientClass c) = Baseline.clientClass c := by
  have hne : Baseline.classRemark c ≠ "" := by
    unfold Baseline.classRemark
    simp
  have hremark := @write_slashed_remark "" (Baseline.classRemark c) hne
  simp [ofClientClass, Baseline.clientClass, Baseline.classLines, write_flatMap, write_slashed_ofMethod, hremark,
    Text.unlines_flatMap, String.append_assoc]

theorem write_slashed_ofRoute (r : Plan.Route) :
    write Comment.slashed (ofRoute r) = Text.unlines (Baseline.routeLines r) := by
  have hne : Baseline.routeRemark r ≠ "" := by
    unfold Baseline.routeRemark
    simp
  have hremark := @write_slashed_remark "  " (Baseline.routeRemark r) hne
  simp [ofRoute, Baseline.routeLines, hremark, String.append_assoc]

theorem write_slashed_ofGroup (g : Plan.Group) :
    write Comment.slashed (ofGroup g) = Text.unlines (Baseline.groupLines g) := by
  have hmember : ∀ op, write Comment.slashed (ofGroupMember op) = Text.unlines (Baseline.groupMemberLines op) := by
    intro op
    simp [ofGroupMember, Baseline.groupMemberLines, write_slashed_described]
  simp [ofGroup, Baseline.groupLines, write_flatMap, hmember, Text.unlines_flatMap, String.append_assoc]

theorem write_slashed_ofClientDefinitions (d : Plan.ClientDefinitions) :
    write Comment.slashed (ofClientDefinitions d) = Baseline.clientDefinitions d := by
  apply String.toList_injective
  simp [ofClientDefinitions, Baseline.clientDefinitions, write_flatMap, write_slashed_ofRoute, write_slashed_ofGroup,
    Text.unlines_flatMap]

/-- What a template makes of a part is the outline of the part with line comments. -/
theorem emit_baseline_eq (part : Plan.Part) :
    Baseline.emit part = .ok ⟨part.path, write Comment.slashed (ofPart part)⟩ := by
  cases part with
  | packageJson m => simp [Baseline.emit, Plan.Part.path, ofPart, Piece.text]
  | clientDefinitions d => rw [ofPart, write_slashed_ofClientDefinitions]; rfl
  | clientClass c => rw [ofPart, write_slashed_ofClientClass]; rfl
  | operationFile f => rw [ofPart, write_slashed_ofOperationFile]; rfl

end Outline

end ClientGen
