import ClientGen.Json.Printer
import ClientGen.Plan.Part
import ClientGen.Source.Render

/-!
# Operations as document trees

A type expression becomes code in which every name that the file imports with a key is a reference.

Three functions: one sends the request, one reads the response, one is for callers. Each refers to its own parameters
and to the other functions by key.
-/

/-! ## Type expressions as code -/

namespace ClientGen.Declarative

open Source (Code)

/-- The key that an import set gives to a name; the last one where several modules have it. -/
def importedKey? (i : Imports) (name : String) : Option Reference :=
  i.symbols.reverse.findSome? fun (other, key) => if other == name then key else none

/-- A text as code; an empty one leaves nothing. -/
def plainCode (text : String) : Code := if text = "" then [] else Code.text text

/-- The code of tokens behind a text that is still to be written. What stands between two references is one text. -/
def tokensCode (i : Imports) (pending : String) : List String → Code
  | [] => plainCode pending
  | token :: rest => match importedKey? i token with
    | some key => plainCode pending ++ .ref key :: tokensCode i "" rest
    | none => tokensCode i (pending ++ token) rest

def typeCode (i : Imports) (type : String) : Code := tokensCode i "" (typeTokens type)

/-- The parameters of a signature in a scope. In a declaration the bag of options has its initial value. -/
def params (i : Imports) (scope : String) (declared : Bool) (ps : List Plan.Parameter) : List Source.Param :=
  ps.map fun p =>
    { name := p.name
      type := typeCode i p.type
      optional := p.optional
      default := if declared then p.default?.map Code.text else none
      key := some (.parameter scope p.name) }

/-- A parameter that is neither optional nor has an initial value. -/
def plainParam (scope name : String) (type : Code) : Source.Param :=
  { name := name, type := type, optional := false, default := none, key := some (.parameter scope name) }

def paramRef (scope name : String) : Code := Code.ref (.parameter scope name)

def importsOf (i : Imports) : List Source.Import :=
  i.entries.map fun (module, names) => { module := module, names := names }

/-! ## The file of an operation as a tree -/

def contextParam (scope contextType : String) : Source.Param :=
  plainParam scope "context" (Code.text contextType)

def optionsRef (op : Plan.Operation) (scope : String) : Code :=
  match op.optionsParameter? with
  | some p => paramRef scope p.name
  | none => Code.text "options"

def namedRefs (scope : String) (members : List (String × Plan.Parameter)) : Code :=
  Code.joined ", " (members.map fun (name, p) => Code.text (Json.quoted name ++ ": ") ++ paramRef scope p.name)

def queryMembers (op : Plan.Operation) : List (String × Plan.Parameter) :=
  (op.parameters.filter fun p => p.slot.isQuery).map fun p => (p.name, p)

def headerMembers (op : Plan.Operation) : List (String × Plan.Parameter) :=
  op.parameters.filterMap fun p => p.wireName?.map (·, p)

def membersLine (scope label : String) (members : List (String × Plan.Parameter)) : List Code :=
  if members.isEmpty then []
  else [Code.text ("  " ++ label ++ ": \x7b ") ++ namedRefs scope members ++ Code.text " \x7d,"]

def pathCall (op : Plan.Operation) (scope : String) : Code :=
  paramRef scope "context" ++ Code.text (".path(" ++ Json.quoted op.path) ++
    (op.parameters.filter fun p => p.slot == .path).flatMap fun p => Code.text ", " ++ paramRef scope p.name

def bodyLine (op : Plan.Operation) (scope : String) : List Code :=
  match op.bodyParameter? with
  | some p => [Code.text "  body: " ++ paramRef scope p.name ++ Code.text ","]
  | none => []

def sendBody (op : Plan.Operation) (scope : String) : List Code :=
  (if op.removesApiVersionPolicy then
    [paramRef scope "context" ++
      Code.text ".pipeline.removePolicy(\x7b name: \"ClientApiVersionPolicy\" \x7d);"]
  else []) ++
  [Code.text "return " ++ pathCall op scope ++ Code.text (")." ++ op.method.verb ++ "(\x7b"),
   Code.text "  ...operationOptionsToRequestParameters(" ++ optionsRef op scope ++ Code.text "),"] ++
  membersLine scope "queryParameters" (queryMembers op) ++
  membersLine scope "headers" (headerMembers op) ++
  bodyLine op scope ++ [Code.text "\x7d);"]

def sendFunction (op : Plan.Operation) (contextType : String) (i : Imports) : Source.Declaration :=
  let scope := op.sendName
  { name := scope
    key := some op.sendKey
    exported := true
    doc := none
    content := .function
      { isAsync := false
        params := contextParam scope contextType :: params i scope true op.parameters
        returnType := Code.text "StreamableMethod"
        body := sendBody op scope } }

def resultAccessor (op : Plan.Operation) : String :=
  match op.longRunning with
  | some l => l.accessor
  | none => ""

def deserializeBody (op : Plan.Operation) (scope : String) : List Code :=
  [Code.text ("const expectedStatuses = " ++ Json.quotedList op.expectedStatuses ++ ";"),
   Code.text "if (!expectedStatuses.includes(" ++ paramRef scope "result" ++ Code.text ".status)) \x7b",
   Code.text "  throw createRestError(" ++ paramRef scope "result" ++ Code.text ");",
   Code.text "\x7d",
   [],
   Code.text "return " ++ paramRef scope "result" ++ Code.text (".body" ++ resultAccessor op ++ ";")]

def deserializeFunction (op : Plan.Operation) (i : Imports) : Source.Declaration :=
  let scope := op.deserializeName
  { name := scope
    key := some op.deserializeKey
    exported := true
    doc := none
    content := .function
      { isAsync := true
        params := [plainParam scope "result" (Code.text "PathUncheckedResponse")]
        returnType := typeCode i op.deserializeType
        body := deserializeBody op scope } }

def sendCall (op : Plan.Operation) (scope : String) : Code :=
  Code.ref op.sendKey ++ Code.text "(" ++
    Code.joined ", " (("context" :: op.argumentNames).map (paramRef scope)) ++ Code.text ")"

def pagingSettings (op : Plan.Operation) : String :=
  match op.paging with
  | some p =>
    "\x7b itemName: " ++ Json.quoted p.itemField ++
      (match p.nextLinkField with
        | some next => ", nextLinkName: " ++ Json.quoted next
        | none => "") ++ " \x7d"
  | none => "\x7b itemName: " ++ Json.quoted "value" ++ " \x7d"

def callBody (op : Plan.Operation) (scope : String) (i : Imports) : List Code :=
  match op.kind with
  | .plain =>
    [Code.text "const result = await " ++ sendCall op scope ++ Code.text ";",
     Code.text "return " ++ Code.ref op.deserializeKey ++ Code.text "(result);"]
  | .longRunning =>
    [Code.text "return getLongRunningPoller(" ++ paramRef scope "context" ++ Code.text ", " ++
       Code.ref op.deserializeKey ++ Code.text (", " ++ Json.quotedList op.expectedStatuses ++ ", \x7b"),
     Code.text "  updateIntervalInMs: " ++ optionsRef op scope ++ Code.text "?.updateIntervalInMs,",
     Code.text "  abortSignal: " ++ optionsRef op scope ++ Code.text "?.abortSignal,",
     Code.text "  getInitialResponse: () => " ++ sendCall op scope ++ Code.text ",",
     Code.text "\x7d) as " ++ typeCode i op.returnType ++ Code.text ";"]
  | .paging =>
    [Code.text "return buildPagedAsyncIterator(",
     Code.text "  " ++ paramRef scope "context" ++ Code.text ",",
     Code.text "  () => " ++ sendCall op scope ++ Code.text ",",
     Code.text "  " ++ Code.ref op.deserializeKey ++ Code.text ",",
     Code.text ("  " ++ Json.quotedList op.expectedStatuses ++ ","),
     Code.text ("  " ++ pagingSettings op ++ ","),
     Code.text ");"]

def callFunction (op : Plan.Operation) (contextType : String) (i : Imports) : Source.Declaration :=
  let scope := op.name
  { name := scope
    key := some op.functionKey
    exported := true
    doc := op.description
    content := .function
      { isAsync := op.kind == .plain
        params := contextParam scope contextType :: params i scope true op.parameters
        returnType := typeCode i op.returnType
        body := callBody op scope i } }

def operationFile (f : Plan.OperationFile) : Source.File where
  imports := importsOf f.imports
  declarations :=
    [sendFunction f.operation f.contextType f.imports, deserializeFunction f.operation f.imports,
     callFunction f.operation f.contextType f.imports]

end ClientGen.Declarative
