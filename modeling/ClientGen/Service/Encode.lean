import ClientGen.Service.Model

/-!
# Service models as JSON

The written form of a model names every member, an absent one as `null`.
-/

namespace ClientGen.Service

def PathParameter.toJson (p : PathParameter) : Json :=
  .object [("name", .string p.name), ("type", .string p.type)]

def Response.toJson (r : Response) : Json :=
  .object [("type", .string r.type), ("expectedStatuses", .ofStrings r.expectedStatuses)]

def Parameter.toJson (p : Parameter) : Json :=
  .object
    [("name", .string p.name), ("type", .string p.type), ("location", .string p.location),
     ("onClient", .bool p.onClient), ("optional", .bool p.optional),
     ("headerName", .ofOption .string p.headerName), ("isApiVersion", .bool p.isApiVersion)]

def LongRunning.toJson (l : LongRunning) : Json :=
  .object
    [("finalResultType", .ofOption .string l.finalResultType),
     ("finalResultPath", .ofOption .string l.finalResultPath)]

def Paging.toJson (p : Paging) : Json :=
  .object
    [("itemField", .string p.itemField), ("nextLinkField", .ofOption .string p.nextLinkField),
     ("itemType", .ofOption .string p.itemType)]

def Operation.toJson (o : Operation) : Json :=
  .object
    [("name", .string o.name), ("method", .string o.method.name),
     ("description", .ofOption .string o.description), ("response", o.response.toJson),
     ("parameters", .array (o.parameters.map Parameter.toJson)),
     ("lro", .ofOption LongRunning.toJson o.longRunning), ("paging", .ofOption Paging.toJson o.paging)]

def PathEntry.toJson (e : PathEntry) : Json :=
  .object
    [("name", .string e.name), ("operationGroupName", .ofOption .string e.group),
     ("pathParameters", .array (e.parameters.map PathParameter.toJson)),
     ("operations", .array (e.operations.map Operation.toJson))]

def PackageDetails.toJson (d : PackageDetails) : Json :=
  .object
    [("name", .ofOption .string d.name), ("version", .ofOption .string d.version),
     ("description", .ofOption .string d.description)]

/-- The switches stand among the other options. -/
def Options.toJson (o : Options) : Json :=
  .object
    ([("title", .ofOption .string o.title), ("includeShortcuts", .bool o.includeShortcuts),
      ("isMultiEndpoint", .bool o.isMultiEndpoint), ("packageDetails", .ofOption PackageDetails.toJson o.package),
      ("generateTest", .bool o.generateTest), ("moduleKind", .string o.moduleKind.name)] ++ o.switches.members)

def Model.toJson (m : Model) : Json :=
  .object
    [("options", m.options.toJson), ("srcPath", .string m.sourcePath),
     ("paths", .object (m.paths.entries.map fun (template, entry) => (template, entry.toJson)))]

end ClientGen.Service
