import ClientGen.Plan.Parameter
import ClientGen.Reference.Registry
import ClientGen.Text.Basic

/-!
# Planned operations

An operation of a service model becomes one that is ready to be emitted: it is plain, long-running or paging, its
parameters are shaped, and its description is safe inside a comment.
-/

namespace ClientGen.Plan

structure LongRunning where
  resultType : String
  /-- The path of the result in the final response; empty for all of it. -/
  resultPath : List String
  deriving DecidableEq, Repr

/-- The access to the result as in `.result.value`. -/
def LongRunning.accessor (l : LongRunning) : String :=
  Text.concat (l.resultPath.map ("." ++ ·))

structure Paging where
  itemField : String
  nextLinkField : Option String
  itemType : String
  deriving DecidableEq, Repr

inductive Kind where
  | plain
  | longRunning
  | paging
  deriving DecidableEq, Repr

def Kind.name : Kind → String
  | .plain => "plain"
  | .longRunning => "longRunning"
  | .paging => "paging"

structure Operation where
  name : String
  method : HttpMethod
  path : String
  group : Option String
  description : Option String
  /-- The parameters of a call in order, the bag of options last. -/
  parameters : List Parameter
  clientParameters : List Parameter
  responseType : String
  expectedStatuses : List String
  optionsType : String
  longRunning : Option LongRunning
  paging : Option Paging
  /-- A version of the interface that is given at each call takes the place of the one that the client sets. -/
  removesApiVersionPolicy : Bool
  deriving DecidableEq, Repr

namespace Operation

/-- An operation that is both long-running and paging counts as long-running. -/
def kind (op : Operation) : Kind :=
  if op.longRunning.isSome then .longRunning else if op.paging.isSome then .paging else .plain

def resultType (op : Operation) : String :=
  match op.longRunning with
  | some l => l.resultType
  | none => op.responseType

def itemType (op : Operation) : String :=
  match op.paging with
  | some p => p.itemType
  | none => op.responseType

def returnType (op : Operation) : String :=
  match op.kind with
  | .longRunning => "PollerLike<OperationState<" ++ op.resultType ++ ">, " ++ op.resultType ++ ">"
  | .paging => "PagedAsyncIterableIterator<" ++ op.itemType ++ ">"
  | .plain => "Promise<" ++ op.responseType ++ ">"

def deserializeType (op : Operation) : String := "Promise<" ++ op.resultType ++ ">"

def docLines (op : Operation) : List String :=
  match op.description with
  | some text => Text.linesOf text
  | none => []

def sendName (op : Operation) : String := "_" ++ op.name ++ "Send"

def deserializeName (op : Operation) : String := "_" ++ op.name ++ "Deserialize"

def argumentNames (op : Operation) : List String := op.parameters.map Parameter.name

def signature (op : Operation) : String := Text.joined ", " (op.parameters.map Parameter.signature)

def declaration (op : Operation) : String := Text.joined ", " (op.parameters.map Parameter.declaration)

def parametersAt (op : Operation) (l : Location) : List Parameter :=
  op.parameters.filter fun p => p.location? == some l

def bodyParameter? (op : Operation) : Option Parameter := (op.parametersAt .body).head?

def optionsParameter? (op : Operation) : Option Parameter := op.parameters.find? Parameter.isOptions

def key (op : Operation) : Reference := .operation op.name

def functionKey (op : Operation) : Reference := .operationFunction op.name

def sendKey (op : Operation) : Reference := .sendFunction op.name

def deserializeKey (op : Operation) : Reference := .deserializeFunction op.name

def toJson (op : Operation) : Json :=
  .object
    [("name", .string op.name), ("method", .string op.method.name), ("path", .string op.path),
     ("group", .ofOption .string op.group), ("description", .ofOption .string op.description),
     ("parameters", .array (op.parameters.map Parameter.toJson)),
     ("clientParameters", .array (op.clientParameters.map Parameter.toJson)),
     ("responseType", .string op.responseType), ("expectedStatuses", .ofStrings op.expectedStatuses),
     ("optionsType", .string op.optionsType),
     ("lro", .ofOption (fun l => .object
       [("finalResultType", .string l.resultType), ("finalResultPath", .ofStrings l.resultPath)]) op.longRunning),
     ("paging", .ofOption (fun p => .object
       [("itemField", .string p.itemField), ("nextLinkField", .ofOption .string p.nextLinkField),
        ("itemType", .string p.itemType)]) op.paging),
     ("removesApiVersionPolicy", .bool op.removesApiVersionPolicy)]

end Operation

/-- The segments of a dotted path, blanks around them aside. -/
def accessPath (text : String) : List String :=
  (((Text.cut (· == '.') text.toList).map Text.trim).filter fun s => !s.isEmpty).map String.ofList

def withoutEmptyEnds (lines : List (List Char)) : List (List Char) :=
  ((lines.dropWhile List.isEmpty).reverse.dropWhile List.isEmpty).reverse

/-- A description that can stand in a comment: its lines trimmed, without blank ones at either end, the end of a
comment broken up. A blank description is none. -/
def commentText? (text : String) : Option String :=
  let lines := (Text.lines text.toList).map fun line => Text.replace ['*', '/'] ['*', '\\', '/'] (Text.trim line)
  match withoutEmptyEnds lines with
  | [] => none
  | lines => some (Text.joined "\n" (lines.map String.ofList))

def defaultStatuses (longRunning : Bool) : List String :=
  if longRunning then ["200", "201", "202"] else ["200"]

/-- A long-running operation yields its response type where the model names no other. -/
def shapeLongRunning (responseType : String) (l : Service.LongRunning) : LongRunning where
  resultType := l.finalResultType.getD responseType
  resultPath := (l.finalResultPath.map accessPath).getD []

/-- An empty name of the next link is none. -/
def shapePaging (responseType : String) (p : Service.Paging) : Paging where
  itemField := p.itemField
  nextLinkField := p.nextLinkField.filter fun f => f ≠ ""
  itemType := p.itemType.getD responseType

def operationName (op : Service.Operation) : String := Text.camel op.name

def optionsTypeOf (name : String) : String := Text.pascal name ++ "Options"

/-- The operation that is planned under a name, given its shaped parameters, each with whether the client binds it. -/
def plannedOperation (name path : String) (group : Option String) (op : Service.Operation)
    (shaped : List (Bool × Parameter)) : Operation :=
  let perCall := (shaped.filter fun (onClient, _) => !onClient).map Prod.snd
  { name := name
    method := op.method
    path := path
    group := group
    description := op.description.bind commentText?
    parameters := perCall ++ [.options (optionsTypeOf name)]
    clientParameters := (shaped.filter fun (onClient, _) => onClient).map Prod.snd
    responseType := op.response.type
    expectedStatuses :=
      if op.response.expectedStatuses.isEmpty then defaultStatuses op.longRunning.isSome
      else op.response.expectedStatuses
    optionsType := optionsTypeOf name
    longRunning := op.longRunning.map (shapeLongRunning op.response.type)
    paging := op.paging.map (shapePaging op.response.type)
    removesApiVersionPolicy := perCall.any fun p => p.slot == .query true }

def shapeOperation (path : String) (group : Option String) (op : Service.Operation) :
    Except ModelFault Operation :=
  if Text.isBlankText op.name then .error (.emptyOperationName path)
  else do
    let shaped ← shapeParameters (operationName op) [] op.parameters
    .ok (plannedOperation (operationName op) path group op shaped)

/-- The operations in order; `seen` holds the names that came before with their paths. -/
def shapeOperations (seen : List (String × String)) :
    List (String × Service.PathEntry × Service.Operation) → Except ModelFault (List Operation)
  | [] => .ok []
  | (path, entry, op) :: rest => do
    let shaped ← shapeOperation path entry.group op
    match seen.lookup shaped.name with
    | some first => .error (.duplicateOperation shaped.name first path)
    | none =>
      let others ← shapeOperations ((shaped.name, path) :: seen) rest
      .ok (shaped :: others)

def operations (m : Service.Model) : Except ModelFault (List Operation) :=
  shapeOperations [] m.operations

end ClientGen.Plan
