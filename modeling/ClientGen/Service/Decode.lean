import ClientGen.Json.Reader
import ClientGen.Record
import ClientGen.Service.Model

/-!
# Service models from documents

A model is read from JSON or YAML. Members that no type knows are passed over; the options are the one record that
must name its members, because the switches stand among them, and there even an unknown member has to be readable.
-/

namespace ClientGen

variable {α : Type} [Readable α]

open Readable

namespace Switches

/-- Each switch has a second name. -/
def fields : List Record.Field :=
  [("useAlloyPackageJson", ["use_alloy_package_json"]),
   ("useAlloyCodeGeneration", ["use_alloy_code_generation"]),
   ("clientClass", ["client_class"]), ("clientInterface", ["client_interface"]),
   ("operationFunction", ["operation_function"])]

def ofRecord? (r : Record α) : Option Switches := do
  some
    { packageJson := ← r.nullable "useAlloyPackageJson" flag?
      codeGeneration := ← r.nullable "useAlloyCodeGeneration" flag?
      clientClass := ← r.nullable "clientClass" flag?
      clientInterface := ← r.nullable "clientInterface" flag?
      operationFunction := ← r.nullable "operationFunction" flag? }

def read? (v : α) : Option Switches :=
  (Record.read? fields v).bind ofRecord?

end Switches

namespace Service

def method? (v : α) : Option HttpMethod :=
  (choice? v).bind fun name => HttpMethod.all.find? fun m => m.name == name || m.verb == name

def moduleKind? (v : α) : Option ModuleKind :=
  (choice? v).bind fun name => [ModuleKind.esm, .cjs].find? fun k => k.name == name

def PathParameter.fields : List Record.Field :=
  [("name", []), ("type", [])]

def PathParameter.read? (v : α) : Option PathParameter := do
  let r ← Record.read? PathParameter.fields v
  some { name := ← r.required "name" text?, type := ← r.withDefault "type" text? defaultType }

def Response.read? (v : α) : Option Response := do
  let r ← Record.read? [("type", []), ("expectedStatuses", [])] v
  some
    { type := ← r.required "type" text?
      expectedStatuses := ← r.withDefault "expectedStatuses" (list? status?) [] }

def Parameter.fields : List Record.Field :=
  [("name", []), ("type", []), ("location", []), ("onClient", []), ("optional", []), ("headerName", []),
   ("isApiVersion", [])]

def Parameter.read? (v : α) : Option Parameter := do
  let r ← Record.read? Parameter.fields v
  some
    { name := ← r.required "name" text?
      type := ← r.withDefault "type" text? defaultType
      location := ← r.required "location" text?
      onClient := ← r.withDefault "onClient" flag? false
      optional := ← r.withDefault "optional" flag? false
      headerName := ← r.nullable "headerName" text?
      isApiVersion := ← r.withDefault "isApiVersion" flag? false }

def LongRunning.fields : List Record.Field :=
  [("finalResultType", []), ("finalResultPath", [])]

def LongRunning.read? (v : α) : Option LongRunning := do
  let r ← Record.read? LongRunning.fields v
  some
    { finalResultType := ← r.nullable "finalResultType" text?
      finalResultPath := ← r.nullable "finalResultPath" text? }

def Paging.fields : List Record.Field :=
  [("itemField", []), ("nextLinkField", []), ("itemType", [])]

def Paging.read? (v : α) : Option Paging := do
  let r ← Record.read? Paging.fields v
  some
    { itemField := ← r.withDefault "itemField" text? defaultItemField
      nextLinkField := ← r.nullable "nextLinkField" text?
      itemType := ← r.nullable "itemType" text? }

def Operation.read? (v : α) : Option Operation := do
  let r ← Record.read?
    [("name", []), ("method", []), ("description", []), ("response", []), ("parameters", []), ("lro", []),
     ("paging", [])] v
  some
    { name := ← r.required "name" text?
      method := ← r.required "method" method?
      description := ← r.nullable "description" text?
      response := ← r.required "response" Response.read?
      parameters := ← r.withDefault "parameters" (list? Parameter.read?) []
      longRunning := ← r.nullable "lro" LongRunning.read?
      paging := ← r.nullable "paging" Paging.read? }

def PathEntry.read? (v : α) : Option PathEntry := do
  let r ← Record.read? [("name", []), ("operationGroupName", []), ("pathParameters", []), ("operations", [])] v
  some
    { name := ← r.withDefault "name" text? ""
      group := ← r.nullable "operationGroupName" text?
      parameters := ← r.withDefault "pathParameters" (list? PathParameter.read?) []
      operations := ← r.withDefault "operations" (list? Operation.read?) [] }

def PackageDetails.fields : List Record.Field :=
  [("name", []), ("version", []), ("description", [])]

def PackageDetails.read? (v : α) : Option PackageDetails := do
  let r ← Record.read? PackageDetails.fields v
  some
    { name := ← r.nullable "name" text?
      version := ← r.nullable "version" text?
      description := ← r.nullable "description" text? }

def Options.fields : List Record.Field :=
  [("title", []), ("includeShortcuts", []), ("isMultiEndpoint", []), ("packageDetails", []), ("generateTest", []),
   ("moduleKind", [])]

def Options.read? (v : α) : Option Options := do
  let members ← members? v
  let r ← Record.ofMembers? members fields
  let others ← (members.filter fun (name, _) => !fields.any (·.accepts name)).mapM fun (name, v) =>
    (content? v).map (name, ·)
  some
    { title := ← r.nullable "title" text?
      includeShortcuts := ← r.withDefault "includeShortcuts" flag? false
      isMultiEndpoint := ← r.withDefault "isMultiEndpoint" flag? false
      package := ← r.nullable "packageDetails" PackageDetails.read?
      generateTest := ← r.withDefault "generateTest" flag? false
      moduleKind := ← r.withDefault "moduleKind" moduleKind? .esm
      switches := ← (Record.ofMembers? others Switches.fields).bind Switches.ofRecord? }

/-- The entries by path template; one that is given again keeps its place and takes the last entry. -/
def paths? (v : α) : Option (Dict String PathEntry) := do
  let members ← members? v
  let entries ← members.mapM fun (member : String × α) => (PathEntry.read? member.2).map (member.1, ·)
  some (Dict.ofList entries)

def Model.read? (v : α) : Option Model := do
  let r ← Record.read? [("options", []), ("srcPath", []), ("paths", [])] v
  some
    { options := ← r.withDefault "options" Options.read? Options.default
      sourcePath := ← r.withDefault "srcPath" text? defaultSourcePath
      paths := ← r.withDefault "paths" paths? .empty }

section Visits

open Yaml (Visit)

def maxDepth : Nat := 128

def Operation.visit : Visit :=
  .record
    [("name", .single), ("method", .single), ("description", .single),
     ("response", .record [("type", .single), ("expectedStatuses", .items .single)]),
     ("parameters", .items (Record.visit Parameter.fields)), ("lro", Record.visit LongRunning.fields),
     ("paging", Record.visit Paging.fields)]

def PathEntry.visit : Visit :=
  .record
    [("name", .single), ("operationGroupName", .single),
     ("pathParameters", .items (Record.visit PathParameter.fields)), ("operations", .items Operation.visit)]

/-- The options stand inside one collection, and unknown members of them are looked at through and through. -/
def Options.visit : Visit :=
  .members fun name =>
    if name = "packageDetails" then Record.visit PackageDetails.fields
    else if Options.fields.any (·.accepts name) then .single
    else .content (maxDepth - 2)

def Model.visit : Visit :=
  .record [("options", Options.visit), ("srcPath", .single), ("paths", .members fun _ => PathEntry.visit)]

end Visits

inductive LoadError where
  | yaml
  | json
  deriving DecidableEq, Repr

def Model.ofJsonText (s : String) : Except LoadError Model :=
  match (Json.parse? s).bind Model.read? with
  | some m => .ok m
  | none => .error .json

def Model.ofYamlText (s : String) : Except LoadError Model :=
  match (Yaml.Document.ofText? s).bind fun d => (d.visited? Model.visit).bind Model.read? with
  | some m => .ok m
  | none => .error .yaml

end Service

end ClientGen
