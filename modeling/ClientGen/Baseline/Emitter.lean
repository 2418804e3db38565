import ClientGen.Baseline.OperationFile
import ClientGen.Json.Printer
import ClientGen.Plan.ClientClass
import ClientGen.Plan.ClientDefinitions
import ClientGen.Plan.Manifest
import ClientGen.Plan.Part

/-!
# The baseline

Each part of a package from a template of its own: the manifest, the client definitions, the client class, and the
files of operations.
-/

/-! ## The package manifest from its template -/

namespace ClientGen.Baseline

def entryLines (entries : List (String × String)) : String :=
  Text.joined ",\n    " (entries.map fun (name, text) => Json.quoted name ++ ": " ++ Json.quoted text)

/-- The end of the manifest: the scripts and, for the `@azure` scope, what else is said. -/
def endLines (m : Plan.Manifest) : List String :=
  match m.azure with
  | some d =>
    ["  \"scripts\": \x7b",
     "    " ++ entryLines m.scripts,
     "  \x7d,",
     "  \"sdk-type\": " ++ Json.quoted d.sdkType ++ ",",
     "  \"repository\": " ++ Json.quoted d.repository ++ ",",
     "  \"bugs\": \x7b",
     "    \"url\": " ++ Json.quoted d.bugsUrl,
     "  \x7d"]
  | none =>
    ["  \"scripts\": \x7b",
     "    " ++ entryLines m.scripts,
     "  \x7d"]

def manifest (m : Plan.Manifest) : String :=
  Text.unlines
    (["\x7b",
      "  \"name\": " ++ Json.quoted m.name ++ ",",
      "  \"version\": " ++ Json.quoted m.version ++ ",",
      "  \"description\": " ++ Json.quoted m.description ++ ",",
      "  \"engines\": \x7b",
      "    \"node\": " ++ Json.quoted m.nodeEngine,
      "  \x7d,",
      "  \"sideEffects\": false,",
      "  \"autoPublish\": false,",
      "  \"dependencies\": \x7b",
      "    " ++ entryLines m.dependencies,
      "  \x7d,",
      "  \"devDependencies\": \x7b",
      "    " ++ entryLines m.devDependencies,
      "  \x7d,"] ++ endLines m ++ ["\x7d"])

/-! ## Client definitions from their template -/

def routeParameters (r : Plan.Route) : String :=
  Text.joined ", " (("path: " ++ Json.quoted r.path) :: r.parameters.map fun p => p.name ++ ": " ++ p.type)

def routeRemark (r : Plan.Route) : String :=
  "Resource for '" ++ r.path ++ "' has methods for the following verbs: " ++ r.verbs

def routeCode (r : Plan.Route) : String := "  (" ++ routeParameters r ++ "): " ++ r.returnType ++ ";"

def routeLines (r : Plan.Route) : List String := ["  // " ++ routeRemark r, routeCode r]

def groupMemberCode (op : Plan.Operation) : String :=
  "  " ++ op.name ++ "(" ++ op.signature ++ "): " ++ op.returnType ++ ";"

def groupMemberLines (op : Plan.Operation) : List String :=
  (docComments op).map ("  " ++ ·) ++ [groupMemberCode op]

def groupLines (g : Plan.Group) : List String :=
  ["", "export interface " ++ g.interfaceName ++ " \x7b"] ++ g.operations.flatMap groupMemberLines ++ ["\x7d"]

def clientType (d : Plan.ClientDefinitions) : String :=
  Text.joined " & " ("Client & \x7b path: Routes \x7d" :: d.shortcuts)

def clientDefinitions (d : Plan.ClientDefinitions) : String :=
  Text.unlines (d.imports.statements ++ [""] ++ ["export interface Routes \x7b"] ++ d.routes.flatMap routeLines ++
    ["\x7d"] ++ d.groups.flatMap groupLines ++
    ["", "export type " ++ d.names.contextType ++ " = " ++ clientType d ++ ";"])

/-! ## The client class from its template -/

def constructorParameters (c : Plan.ClientClass) : String :=
  Text.joined ", "
    ("endpointParam: string" :: c.clientParameters.map Plan.Parameter.signature ++
      ["options: " ++ c.names.optionalParamsType ++ " = \x7b\x7d"])

def constructorArguments (c : Plan.ClientClass) : String :=
  Text.joined ", " ("endpointParam" :: c.clientParameters.map Plan.Parameter.name ++ ["options"])

def methodCode (op : Plan.Operation) : List String :=
  ["  " ++ op.name ++ "(" ++ op.declaration ++ "): " ++ op.returnType ++ " \x7b",
   "    return " ++ op.name ++ "(this._client" ++ Text.concat (op.argumentNames.map (", " ++ ·)) ++ ");",
   "  \x7d"]

/-- The method of an operation with its description, behind a blank line. -/
def methodLines (op : Plan.Operation) : List String :=
  [""] ++ (docComments op).map ("  " ++ ·) ++ methodCode op

def classRemark (c : Plan.ClientClass) : String := "Client for the " ++ c.names.base ++ " service."

/-- The class up to the end of its constructor. -/
def classHead (c : Plan.ClientClass) : List String :=
  ["export class " ++ c.names.className ++ " \x7b",
   "  private _client: " ++ c.names.contextType ++ ";",
   "  public readonly pipeline: Pipeline;",
   "",
   "  constructor(" ++ constructorParameters c ++ ") \x7b",
   "    this._client = " ++ c.names.factoryName ++ "(" ++ constructorArguments c ++ ");",
   "    this.pipeline = this._client.pipeline;",
   "  \x7d"]

def classLines (c : Plan.ClientClass) : List String :=
  ["// " ++ classRemark c] ++ classHead c ++ c.operations.flatMap methodLines ++ ["\x7d"]

def clientClass (c : Plan.ClientClass) : String :=
  Text.unlines (c.imports.statements ++ [""] ++ classLines c)

/-! ## Emitting from templates -/

def emit : PureEmitter
  | .packageJson m => .ok ⟨m.path, manifest m⟩
  | .clientDefinitions d => .ok ⟨d.path, clientDefinitions d⟩
  | .clientClass c => .ok ⟨c.path, clientClass c⟩
  | .operationFile f => .ok ⟨f.path, operationFile f⟩

end ClientGen.Baseline
