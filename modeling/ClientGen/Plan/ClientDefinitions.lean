import ClientGen.Plan.ClientClass

/-!
# Client definitions

One file declares the routes of a client, an interface for each group of operations and the type that ties them
together. Operations that belong to no group form a group of their own, the last one.
-/

namespace ClientGen.Plan

structure Route where
  path : String
  name : String
  parameters : List Parameter
  methods : List HttpMethod
  responseTypes : List String
  deriving DecidableEq, Repr

namespace Route

def returnType (r : Route) : String :=
  "StreamableMethod<" ++ (if r.responseTypes.isEmpty then "unknown" else Text.joined " | " r.responseTypes) ++ ">"

def verbs (r : Route) : String := Text.joined ", " (r.methods.map HttpMethod.verb)

def toJson (r : Route) : Json :=
  .object
    [("path", .string r.path), ("name", .string r.name),
     ("pathParameters", .array (r.parameters.map Parameter.toJson)),
     ("methods", .ofStrings (r.methods.map HttpMethod.name)), ("responseTypes", .ofStrings r.responseTypes)]

end Route

structure Group where
  interfaceName : String
  /-- The property through which the client reaches the group; none for operations without a group. -/
  property : Option String
  operations : List Operation
  deriving DecidableEq, Repr

structure ClientDefinitions where
  path : String
  names : ClientNames
  routes : List Route
  groups : List Group
  includeShortcuts : Bool
  imports : Imports
  deriving DecidableEq

def Group.shortcut (g : Group) : String :=
  match g.property with
  | some property => "\x7b " ++ property ++ ": " ++ g.interfaceName ++ " \x7d"
  | none => g.interfaceName

def ClientDefinitions.shortcuts (d : ClientDefinitions) : List String :=
  if d.includeShortcuts then d.groups.map Group.shortcut else []

/-- The interface of the operations that belong to no group. -/
def ungroupedInterface : String := "ClientOperations"

/-- The items of a list, each once, in order of first appearance. -/
def distinctOf {α : Type} [BEq α] (items : List α) : List α :=
  items.foldl (fun seen a => if seen.contains a then seen else seen ++ [a]) []

def pathParameters (op : Operation) : List Parameter :=
  (op.parameters ++ op.clientParameters).filter fun p => p.slot == .path

/-- The route of a path; where the model lists no parameters of the path, those of its operations stand in. -/
def route (ops : List Operation) (path : String) (entry : Service.PathEntry) : Route :=
  let here := ops.filter fun op => op.path == path
  { path := path
    name := entry.name
    parameters :=
      if entry.parameters.isEmpty then distinctParameters (here.flatMap pathParameters)
      else entry.parameters.map fun p => ⟨p.name, p.type, false, .path⟩
    methods := distinctOf (here.map Operation.method)
    responseTypes := distinctOf (here.map Operation.responseType) }

def routes (m : Service.Model) (ops : List Operation) : List Route :=
  (m.paths.entries.filter fun (_, entry) => !entry.operations.isEmpty).map fun (path, entry) => route ops path entry

def groupName? (op : Operation) : Option String :=
  (op.group.filter fun g => !Text.isBlankText g).map Text.pascal

/-- The operations by group, the groups in order of first appearance. -/
def grouped (ops : List Operation) : Dict String (List Operation) :=
  ops.foldl
    (fun d op => match groupName? op with
      | some g => d.update g fun ops => ops.getD [] ++ [op]
      | none => d) .empty

def groups (ops : List Operation) : List Group :=
  let named := (grouped ops).entries.map fun (g, ops) => (⟨g ++ "Operations", some (Text.camel g), ops⟩ : Group)
  let others := ops.filter fun op => (groupName? op).isNone
  if others.isEmpty then named else named ++ [⟨ungroupedInterface, none, others⟩]

def definitionsImports (routes : List Route) (ops : List Operation) : Imports :=
  let i := addReturnImports ops (Imports.empty.addAll httpRuntime ["Client", "StreamableMethod"])
  let i := routes.foldl
    (fun i r => r.responseTypes.foldl (fun i t => i.addModels FromSource.models t)
      (r.parameters.foldl (fun i p => i.addModels FromSource.models p.type) i)) (addOptionsTypes ops i)
  addSignatureModels ops i

def clientDefinitions (m : Service.Model) (ops : List Operation) : ClientDefinitions :=
  let routes := routes m ops
  { path := m.sourcePath ++ "/clientDefinitions.ts"
    names := ClientNames.ofName m.clientName
    routes := routes
    groups := groups ops
    includeShortcuts := m.options.includeShortcuts
    imports := definitionsImports routes ops }

end ClientGen.Plan
