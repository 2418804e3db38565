import ClientGen.Declarative.OperationFile
import ClientGen.Json.Printer
import ClientGen.Plan.Manifest

/-!
# The declarative way

The manifest is a JSON value that is printed; every other part of a package is a document tree that is rendered.

The client definitions are the interface of the routes, one interface for each group of operations, and the type of
the client. The client class has a private context, the pipeline, a constructor, and a method for each operation that
calls its function.
-/

/-! ## The package manifest as a JSON value -/

namespace ClientGen.Declarative

def textMembers (entries : List (String × String)) : Json :=
  .object (entries.map fun (name, text) => (name, .string text))

def azureMembers (d : Plan.AzureDetails) : List (String × Json) :=
  [("sdk-type", .string d.sdkType), ("repository", .string d.repository),
   ("bugs", .object [("url", .string d.bugsUrl)])]

def manifestValue (m : Plan.Manifest) : Json :=
  .object
    ([("name", .string m.name), ("version", .string m.version), ("description", .string m.description),
      ("engines", .object [("node", .string m.nodeEngine)]), ("sideEffects", .bool false),
      ("autoPublish", .bool false), ("dependencies", textMembers m.dependencies),
      ("devDependencies", textMembers m.devDependencies), ("scripts", textMembers m.scripts)] ++
      (match m.azure with
        | some d => azureMembers d
        | none => []))

def manifest (m : Plan.Manifest) : String := (manifestValue m).pretty ++ "\n"

/-! ## Client definitions as a tree -/

open Source (Code)

def unboundParam (name : String) (type : Code) : Source.Param :=
  { name := name, type := type, optional := false, default := none, key := none }

def routeDoc (r : Plan.Route) : String :=
  "Resource for '" ++ r.path ++ "' has methods for the following verbs: " ++ r.verbs

def routeMember (i : Imports) (r : Plan.Route) : Source.InterfaceMember where
  name := none
  doc := some (routeDoc r)
  params := unboundParam "path" (Code.text (Json.quoted r.path)) ::
    r.parameters.map fun p => unboundParam p.name (typeCode i p.type)
  returnType := typeCode i r.returnType

def groupMember (i : Imports) (op : Plan.Operation) : Source.InterfaceMember where
  name := some op.name
  doc := op.description
  params := params i op.name false op.parameters
  returnType := typeCode i op.returnType

def interfaceOf (name : String) (members : List Source.InterfaceMember) : Source.Declaration where
  name := name
  key := some (.type name)
  exported := true
  doc := none
  content := .interfaceDecl members

def shortcutCode (g : Plan.Group) : Code :=
  match g.property with
  | some property => Code.text ("\x7b " ++ property ++ ": ") ++ Code.ref (.type g.interfaceName) ++ Code.text " \x7d"
  | none => Code.ref (.type g.interfaceName)

def clientType (d : Plan.ClientDefinitions) : Code :=
  Code.text "Client & \x7b path: " ++ Code.ref (.type "Routes") ++ Code.text " \x7d" ++
    (if d.includeShortcuts then d.groups.flatMap fun g => Code.text " & " ++ shortcutCode g else [])

def clientDefinitions (d : Plan.ClientDefinitions) : Source.File where
  imports := importsOf d.imports
  declarations :=
    interfaceOf "Routes" (d.routes.map (routeMember d.imports)) ::
      (d.groups.map fun g => interfaceOf g.interfaceName (g.operations.map (groupMember d.imports))) ++
      [{ name := d.names.contextType
         key := some (.clientInterface d.names.base)
         exported := true
         doc := none
         content := .typeAlias (clientType d) }]

/-! ## The client class as a tree -/

/-- The parameters of the constructor: the endpoint, what operations bind at the client, the options. -/
def constructorParams (c : Plan.ClientClass) : List Source.Param :=
  let scope := "constructor"
  plainParam scope "endpointParam" (Code.text "string") :: params c.imports scope false c.clientParameters ++
    [{ plainParam scope "options" (typeCode c.imports c.names.optionalParamsType) with
        default := some (Code.text "\x7b\x7d") }]

/-- The factory by key, or by name where it is not imported. -/
def factoryCode (c : Plan.ClientClass) : Code :=
  match importedKey? c.imports c.names.factoryName with
  | some key => Code.ref key
  | none => Code.text c.names.factoryName

def constructorMethod (c : Plan.ClientClass) : Source.Method :=
  let ps := constructorParams c
  { name := "constructor"
    key := none
    isAsync := false
    doc := none
    params := ps
    returnType := none
    body :=
      [Code.text "this._client = " ++ factoryCode c ++ Code.text "(" ++
         Code.joined ", " (ps.map fun p => paramRef "constructor" p.name) ++ Code.text ");",
       Code.text "this.pipeline = this._client.pipeline;"] }

def operationMethod (i : Imports) (op : Plan.Operation) : Source.Method :=
  let scope := op.name ++ "Method"
  { name := op.name
    key := some op.key
    isAsync := false
    doc := op.description
    params := params i scope true op.parameters
    returnType := some (typeCode i op.returnType)
    body :=
      [Code.text "return " ++ Code.ref op.functionKey ++ Code.text "(" ++
         Code.joined ", " (Code.text "this._client" :: op.argumentNames.map (paramRef scope)) ++ Code.text ");"] }

def classFields (c : Plan.ClientClass) : List Source.ClassMember :=
  [.field
    { name := "_client", type := typeCode c.imports c.names.contextType, isPrivate := true, isReadonly := false
      key := some (.client c.names.className) },
   .field
    { name := "pipeline", type := Code.text "Pipeline", isPrivate := false, isReadonly := true
      key := some (.pipeline c.names.className) }]

def clientClass (c : Plan.ClientClass) : Source.File where
  imports := importsOf c.imports
  declarations :=
    [{ name := c.names.className
       key := some (.clientClass c.names.className)
       exported := true
       doc := some ("Client for the " ++ c.names.base ++ " service.")
       content := .classDecl
         (classFields c ++ .constructor (constructorMethod c) ::
           c.operations.map fun op => .method (operationMethod c.imports op)) }]

end ClientGen.Declarative

/-! ## Emitting from document trees -/

namespace ClientGen

def EmitError.ofRender : Source.RenderError → EmitError
  | .unresolvedReference key => .unresolvedReference key
  | e => .render e.message

namespace Declarative

def rendered (path : String) (f : Source.File) : Except EmitError GeneratedFile :=
  match Source.render f with
  | .ok content => .ok ⟨path, content⟩
  | .error e => .error (.ofRender e)

def emit : PureEmitter
  | .packageJson m => .ok ⟨m.path, manifest m⟩
  | .clientDefinitions d => rendered d.path (clientDefinitions d)
  | .clientClass c => rendered c.path (clientClass c)
  | .operationFile f => rendered f.path (operationFile f)

end Declarative

end ClientGen
