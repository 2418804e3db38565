import ClientGen.Imports
import ClientGen.Json.Printer
import ClientGen.Plan.OperationFile

/-!
# The file of an operation from its template
-/

namespace ClientGen.Baseline

/-- The description as line comments; an empty line stays a bare `//`. -/
def docComments (op : Plan.Operation) : List String :=
  op.docLines.map fun line => if line = "" then "//" else "// " ++ line

/-- Members of an object, each a quoted name with the name of a parameter. -/
def namedArguments (members : List (String × Plan.Parameter)) : String :=
  Text.joined ", " (members.map fun (name, p) => Json.quoted name ++ ": " ++ p.name)

def queryMembers (op : Plan.Operation) : List (String × Plan.Parameter) :=
  (op.parameters.filter fun p => p.slot.isQuery).map fun p => (p.name, p)

def headerMembers (op : Plan.Operation) : List (String × Plan.Parameter) :=
  op.parameters.filterMap fun p => p.wireName?.map (·, p)

def membersLine (label : String) (members : List (String × Plan.Parameter)) : List String :=
  if members.isEmpty then [] else ["    " ++ label ++ ": \x7b " ++ namedArguments members ++ " \x7d,"]

/-- The line for the body; a parameter without a name gets none. -/
def bodyLine (op : Plan.Operation) : List String :=
  match op.bodyParameter? with
  | some p => if p.name = "" then [] else ["    body: " ++ p.name ++ ","]
  | none => []

def pathArguments (op : Plan.Operation) : String :=
  Json.quoted op.path ++
    Text.concat ((op.parameters.filter fun p => p.slot == .path).map fun p => ", " ++ p.name)

/-- The parameters of a function, the context first. -/
def declaredParameters (op : Plan.Operation) (contextType : String) : String :=
  "context: " ++ contextType ++ ", " ++ op.declaration

def arguments (op : Plan.Operation) : String :=
  Text.joined ", " ("context" :: op.argumentNames)

def resultAccessor (op : Plan.Operation) : String :=
  match op.longRunning with
  | some l => l.accessor
  | none => ""

def sendBody (op : Plan.Operation) : List String :=
  (if op.removesApiVersionPolicy then
    ["  context.pipeline.removePolicy(\x7b name: \"ClientApiVersionPolicy\" \x7d);"] else []) ++
  ["  return context.path(" ++ pathArguments op ++ ")." ++ op.method.verb ++ "(\x7b",
   "    ...operationOptionsToRequestParameters(options),"] ++
  membersLine "queryParameters" (queryMembers op) ++ membersLine "headers" (headerMembers op) ++ bodyLine op ++
  ["  \x7d);"]

def sendLines (op : Plan.Operation) (contextType : String) : List String :=
  ["export function " ++ op.sendName ++ "(" ++ declaredParameters op contextType ++ "): StreamableMethod \x7b"] ++
  sendBody op ++ ["\x7d"]

def deserializeBody (op : Plan.Operation) : List String :=
  ["  const expectedStatuses = " ++ Json.quotedList op.expectedStatuses ++ ";",
   "  if (!expectedStatuses.includes(result.status)) \x7b",
   "    throw createRestError(result);",
   "  \x7d",
   "",
   "  return result.body" ++ resultAccessor op ++ ";"]

def deserializeLines (op : Plan.Operation) : List String :=
  ["export async function " ++ op.deserializeName ++ "(result: PathUncheckedResponse): " ++ op.deserializeType ++
     " \x7b"] ++ deserializeBody op ++ ["\x7d"]

def pagingSettings (p : Plan.Paging) : String :=
  match p.nextLinkField with
  | some next => "\x7b itemName: " ++ Json.quoted p.itemField ++ ", nextLinkName: " ++ Json.quoted next ++ " \x7d"
  | none => "\x7b itemName: " ++ Json.quoted p.itemField ++ " \x7d"

def callBody (op : Plan.Operation) : List String :=
  match op.kind with
  | .longRunning =>
    ["  return getLongRunningPoller(context, " ++ op.deserializeName ++ ", " ++
       Json.quotedList op.expectedStatuses ++ ", \x7b",
     "    updateIntervalInMs: options?.updateIntervalInMs,",
     "    abortSignal: options?.abortSignal,",
     "    getInitialResponse: () => " ++ op.sendName ++ "(" ++ arguments op ++ "),",
     "  \x7d) as " ++ op.returnType ++ ";"]
  | .paging =>
    ["  return buildPagedAsyncIterator(",
     "    context,",
     "    () => " ++ op.sendName ++ "(" ++ arguments op ++ "),",
     "    " ++ op.deserializeName ++ ",",
     "    " ++ Json.quotedList op.expectedStatuses ++ ",",
     "    " ++ (op.paging.map pagingSettings).getD "" ++ ",",
     "  );"]
  | .plain =>
    ["  const result = await " ++ op.sendName ++ "(" ++ arguments op ++ ");",
     "  return " ++ op.deserializeName ++ "(result);"]

/-- How the function for callers is introduced; only that of a plain operation waits for anything. -/
def callOpening (op : Plan.Operation) : String :=
  if op.kind == .plain then "export async function " else "export function "

def callLines (op : Plan.Operation) (contextType : String) : List String :=
  [callOpening op ++ op.name ++ "(" ++ declaredParameters op contextType ++ "): " ++ op.returnType ++ " \x7b"] ++
  callBody op ++ ["\x7d"]

def operationFile (f : Plan.OperationFile) : String :=
  let op := f.operation
  Text.unlines (f.imports.statements ++ [""] ++ sendLines op f.contextType ++ [""] ++ deserializeLines op ++ [""] ++
    docComments op ++ callLines op f.contextType)

end ClientGen.Baseline
