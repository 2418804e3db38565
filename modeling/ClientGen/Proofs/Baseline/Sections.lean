import ClientGen.Proofs.Emission.Outline
import ClientGen.Proofs.Plan.Operation

/-!
# Files from templates in sections

A file of source code that is written from templates is a sequence of routines and of other lines. A routine is a
function or method; its first line has the parameters.
-/

namespace ClientGen.Baseline

open Plan (Operation Parameter)

variable {op : Operation}

/-- A function or method as a template writes it: a first line with the parameters, each a name with what follows it,
and further lines. -/
structure Routine where
  opening : String
  parameters : List (String × String)
  closing : String
  body : List String

namespace Routine

def lines (r : Routine) : List String :=
  [r.opening ++ "(" ++ Text.joined ", " (r.parameters.map fun p => p.1 ++ p.2) ++ r.closing] ++ r.body

end Routine

/-- What a template writes in one go: lines of any other kind, or a routine. -/
inductive Section where
  | other (lines : List String)
  | routine (routine : Routine)

namespace Section

def lines : Section → List String
  | .other lines => lines
  | .routine r => r.lines

end Section

/-- What follows the name of a parameter in an interface. -/
def annotation (p : Parameter) : String := (if p.optional then "?" else "") ++ ": " ++ p.type

/-- What follows the name of a parameter in a declaration. -/
def declaredAnnotation (p : Parameter) : String :=
  match p.default? with
  | some value => ": " ++ p.type ++ " = " ++ value
  | none => annotation p

def annotated (ps : List Parameter) : List (String × String) := ps.map fun p => (p.name, annotation p)

def declared (ps : List Parameter) : List (String × String) := ps.map fun p => (p.name, declaredAnnotation p)

def sendRoutine (op : Operation) (contextType : String) : Routine where
  opening := "export function " ++ op.sendName
  parameters := ("context", ": " ++ contextType) :: declared op.parameters
  closing := "): StreamableMethod \x7b"
  body := sendBody op ++ ["\x7d"]

def deserializeRoutine (op : Operation) : Routine where
  opening := "export async function " ++ op.deserializeName
  parameters := [("result", ": PathUncheckedResponse")]
  closing := "): " ++ op.deserializeType ++ " \x7b"
  body := deserializeBody op ++ ["\x7d"]

def callRoutine (op : Operation) (contextType : String) : Routine where
  opening := callOpening op ++ op.name
  parameters := ("context", ": " ++ contextType) :: declared op.parameters
  closing := "): " ++ op.returnType ++ " \x7b"
  body := callBody op ++ ["\x7d"]

def constructorRoutine (c : Plan.ClientClass) : Routine where
  opening := "  constructor"
  parameters := ("endpointParam", ": string") :: annotated c.clientParameters ++
    [("options", ": " ++ c.names.optionalParamsType ++ " = \x7b\x7d")]
  closing := ") \x7b"
  body :=
    ["    this._client = " ++ c.names.factoryName ++ "(" ++ constructorArguments c ++ ");",
     "    this.pipeline = this._client.pipeline;",
     "  \x7d"]

def methodRoutine (op : Operation) : Routine where
  opening := "  " ++ op.name
  parameters := declared op.parameters
  closing := "): " ++ op.returnType ++ " \x7b"
  body :=
    ["    return " ++ op.name ++ "(this._client" ++ Text.concat (op.argumentNames.map (", " ++ ·)) ++ ");",
     "  \x7d"]

def memberRoutine (op : Operation) : Routine where
  opening := "  " ++ op.name
  parameters := annotated op.parameters
  closing := "): " ++ op.returnType ++ ";"
  body := []

def memberSections (op : Operation) : List Section :=
  [.other ((docComments op).map ("  " ++ ·)), .routine (memberRoutine op)]

def groupSections (g : Plan.Group) : List Section :=
  [.other ["", "export interface " ++ g.interfaceName ++ " \x7b"]] ++ g.operations.flatMap memberSections ++
    [.other ["\x7d"]]

def methodSections (op : Operation) : List Section :=
  [.other ([""] ++ (docComments op).map ("  " ++ ·)), .routine (methodRoutine op)]

/-- A file of source code in sections. -/
def sections : Plan.Part → List Section
  | .packageJson _ => []
  | .clientDefinitions d =>
    [.other (d.imports.statements ++ ["", "export interface Routes \x7b"] ++ d.routes.flatMap routeLines ++
        ["\x7d"])] ++
      d.groups.flatMap groupSections ++
      [.other ["", "export type " ++ d.names.contextType ++ " = " ++ clientType d ++ ";"]]
  | .clientClass c =>
    [.other (c.imports.statements ++
        ["", "// " ++ classRemark c, "export class " ++ c.names.className ++ " \x7b",
         "  private _client: " ++ c.names.contextType ++ ";", "  public readonly pipeline: Pipeline;", ""]),
      .routine (constructorRoutine c)] ++
      c.operations.flatMap methodSections ++ [.other ["\x7d"]]
  | .operationFile f =>
    [.other (f.imports.statements ++ [""]), .routine (sendRoutine f.operation f.contextType), .other [""],
      .routine (deserializeRoutine f.operation), .other ([""] ++ docComments f.operation),
      .routine (callRoutine f.operation f.contextType)]

theorem signature_eq (p : Parameter) : p.signature = p.name ++ annotation p := by
  simp [Parameter.signature, annotation, String.append_assoc]

theorem declaration_eq (p : Parameter) : p.declaration = p.name ++ declaredAnnotation p := by
  unfold Parameter.declaration declaredAnnotation
  cases p.default? with
  | none => exact signature_eq p
  | some value => simp only [String.append_assoc]

theorem map_annotated (ps : List Parameter) :
    (annotated ps).map (fun p => p.1 ++ p.2) = ps.map Parameter.signature := by
  simp [annotated, signature_eq]

theorem map_declared (ps : List Parameter) :
    (declared ps).map (fun p => p.1 ++ p.2) = ps.map Parameter.declaration := by
  simp [declared, declaration_eq]

theorem joined_declaredParameters (contextType : String) (h : op.parameters ≠ []) :
    Text.joined ", " ((("context", ": " ++ contextType) :: declared op.parameters).map fun p => p.1 ++ p.2) =
      declaredParameters op contextType := by
  have hne : op.parameters.map Parameter.declaration ≠ [] := by simpa using h
  have hcontext : "context" ++ (": " ++ contextType) = "context: " ++ contextType :=
    String.append_assoc.symm
  rw [List.map_cons, map_declared, hcontext, Text.joined_cons_of_ne_nil _ _ hne, declaredParameters,
    Operation.declaration]

theorem lines_sendRoutine (contextType : String) (h : op.parameters ≠ []) :
    (sendRoutine op contextType).lines = sendLines op contextType := by
  unfold Routine.lines sendRoutine
  rw [joined_declaredParameters contextType h]
  simp [sendLines, String.append_assoc]

theorem lines_deserializeRoutine (op : Operation) : (deserializeRoutine op).lines = deserializeLines op := by
  have hfirst : ∀ opening closing : String,
      opening ++ "(" ++ Text.joined ", " ["result" ++ ": PathUncheckedResponse"] ++ ("): " ++ closing) =
        opening ++ "(result: PathUncheckedResponse): " ++ closing := by
    intro opening closing
    apply String.toList_injective
    simp [Text.joined]
  unfold deserializeRoutine Routine.lines deserializeLines
  rw [List.map_singleton, @String.append_assoc "): ", hfirst]
  simp [String.append_assoc]

theorem lines_callRoutine (contextType : String) (h : op.parameters ≠ []) :
    (callRoutine op contextType).lines = callLines op contextType := by
  unfold Routine.lines callRoutine
  rw [joined_declaredParameters contextType h]
  simp [callLines, String.append_assoc]

theorem lines_methodRoutine (op : Operation) : (methodRoutine op).lines = methodCode op := by
  simp [Routine.lines, methodRoutine, map_declared, methodCode, Operation.declaration, String.append_assoc]

theorem lines_memberRoutine (op : Operation) : (memberRoutine op).lines = [groupMemberCode op] := by
  simp [Routine.lines, memberRoutine, map_annotated, groupMemberCode, Operation.signature, String.append_assoc]

theorem lines_constructorRoutine (c : Plan.ClientClass) :
    ["export class " ++ c.names.className ++ " \x7b", "  private _client: " ++ c.names.contextType ++ ";",
      "  public readonly pipeline: Pipeline;", ""] ++ (constructorRoutine c).lines = classHead c := by
  have hoptions : "options" ++ (": " ++ c.names.optionalParamsType ++ " = \x7b\x7d") =
      "options: " ++ c.names.optionalParamsType ++ " = \x7b\x7d" := by
    rw [← String.append_assoc, ← String.append_assoc]
    rfl
  simp only [Routine.lines, constructorRoutine, List.map_append, List.map_cons, List.map_nil, map_annotated, hoptions]
  simp [classHead, constructorParameters, String.append_assoc]

theorem lines_memberSections (op : Operation) : (memberSections op).flatMap Section.lines = groupMemberLines op := by
  simp [memberSections, Section.lines, lines_memberRoutine, groupMemberLines]

theorem lines_groupSections (g : Plan.Group) : (groupSections g).flatMap Section.lines = groupLines g := by
  simp [groupSections, Section.lines, groupLines, List.flatMap_assoc, lines_memberSections]

theorem lines_methodSections (op : Operation) : (methodSections op).flatMap Section.lines = methodLines op := by
  simp [methodSections, Section.lines, lines_methodRoutine, methodLines]

theorem lines_clientDefinitions (d : Plan.ClientDefinitions) :
    Text.unlines ((sections (.clientDefinitions d)).flatMap Section.lines) = clientDefinitions d := by
  simp [sections, Section.lines, clientDefinitions, List.flatMap_assoc, lines_groupSections]

theorem lines_clientClass (c : Plan.ClientClass) :
    Text.unlines ((sections (.clientClass c)).flatMap Section.lines) = clientClass c := by
  have hhead := lines_constructorRoutine c
  simp [sections, Section.lines, clientClass, classLines, ← hhead, List.flatMap_assoc, lines_methodSections]

theorem lines_operationFile {f : Plan.OperationFile} (h : f.operation.parameters ≠ []) :
    Text.unlines ((sections (.operationFile f)).flatMap Section.lines) = operationFile f := by
  simp [sections, Section.lines, operationFile, lines_sendRoutine _ h, lines_deserializeRoutine, lines_callRoutine _ h]

/-- What is emitted from templates for a part of a plan are the lines of its sections. -/
theorem emit_eq_sections {m : Service.Model} {ops : List Operation} (h : Plan.operations m = .ok ops)
    {part : Plan.Part} (hpart : part ∈ Plan.sourceParts m ops) :
    emit part = .ok ⟨part.path, Text.unlines ((sections part).flatMap Section.lines)⟩ := by
  rcases Plan.mem_sourceParts_iff.1 hpart with rfl | rfl | ⟨op, hop, rfl⟩
  · rw [lines_clientDefinitions]
    rfl
  · rw [lines_clientClass]
    rfl
  · rw [lines_operationFile (Plan.regular_of_mem_operations h hop).parameters_ne_nil]
    rfl

end ClientGen.Baseline
