import ClientGen.Emission.Switches
import ClientGen.Text.Words

/-!
# Service models

A service model describes an interface over HTTP: its paths in order, the operations on each with their parameters
and responses, and options for the client that is generated from it.

A model should have certain things before a client is generated from it. What is missing is reported; it stops nothing.
-/

namespace ClientGen

inductive HttpMethod where
  | get
  | post
  | put
  | delete
  | patch
  | options
  | head
  | trace
  deriving DecidableEq, Repr

namespace HttpMethod

def all : List HttpMethod := [.get, .post, .put, .delete, .patch, .options, .head, .trace]

/-- The method on the wire. -/
def name : HttpMethod → String
  | .get => "GET"
  | .post => "POST"
  | .put => "PUT"
  | .delete => "DELETE"
  | .patch => "PATCH"
  | .options => "OPTIONS"
  | .head => "HEAD"
  | .trace => "TRACE"

/-- The method in generated code. -/
def verb : HttpMethod → String
  | .get => "get"
  | .post => "post"
  | .put => "put"
  | .delete => "delete"
  | .patch => "patch"
  | .options => "options"
  | .head => "head"
  | .trace => "trace"

end HttpMethod

namespace Service

structure PathParameter where
  name : String
  type : String
  deriving DecidableEq, Repr

structure Response where
  type : String
  expectedStatuses : List String
  deriving DecidableEq, Repr

/-- A parameter as the model states it; its location is any text. -/
structure Parameter where
  name : String
  type : String
  location : String
  /-- Bound when the client is made rather than at each call. -/
  onClient : Bool
  optional : Bool
  /-- The name on the wire of a header; the parameter's own name by default. -/
  headerName : Option String
  isApiVersion : Bool
  deriving DecidableEq, Repr

structure LongRunning where
  finalResultType : Option String
  /-- The dotted path of the result in the final response. -/
  finalResultPath : Option String
  deriving DecidableEq, Repr

structure Paging where
  itemField : String
  nextLinkField : Option String
  itemType : Option String
  deriving DecidableEq, Repr

structure Operation where
  name : String
  method : HttpMethod
  description : Option String
  response : Response
  parameters : List Parameter
  longRunning : Option LongRunning
  paging : Option Paging
  deriving DecidableEq, Repr

structure PathEntry where
  name : String
  group : Option String
  parameters : List PathParameter
  operations : List Operation
  deriving DecidableEq, Repr

structure PackageDetails where
  name : Option String
  version : Option String
  description : Option String
  deriving DecidableEq, Repr

inductive ModuleKind where
  | esm
  | cjs
  deriving DecidableEq, Repr

def ModuleKind.name : ModuleKind → String
  | .esm => "esm"
  | .cjs => "cjs"

structure Options where
  title : Option String
  includeShortcuts : Bool
  isMultiEndpoint : Bool
  package : Option PackageDetails
  generateTest : Bool
  moduleKind : ModuleKind
  switches : Switches
  deriving DecidableEq, Repr

namespace Options

def default : Options where
  title := none
  includeShortcuts := false
  isMultiEndpoint := false
  package := none
  generateTest := false
  moduleKind := .esm
  switches := .unset

end Options

structure Model where
  options : Options
  sourcePath : String
  paths : Dict String PathEntry
  deriving DecidableEq

def defaultSourcePath : String := "src"

def defaultType : String := "string"

def defaultItemField : String := "value"

/-- The paging of an operation that says no more than that it has pages. -/
def Paging.default : Paging := ⟨defaultItemField, some "nextLink", none⟩

namespace Model

def titled (title : String) : Model where
  options := { Options.default with title := some title }
  sourcePath := defaultSourcePath
  paths := .empty

/-- The title as a type name; `Client` where the title is absent or blank. -/
def clientName (m : Model) : String :=
  match m.options.title with
  | some title => if Text.isBlankText title then "Client" else Text.pascal title
  | none => "Client"

/-- Every operation with its path template and path entry, in order. -/
def operations (m : Model) : List (String × PathEntry × Operation) :=
  m.paths.entries.flatMap fun (template, entry) => entry.operations.map (template, entry, ·)

def operationCount (m : Model) : Nat :=
  m.operations.length

def hasLongRunning (m : Model) : Bool :=
  m.operations.any fun (_, _, op) => op.longRunning.isSome

def withSwitches (m : Model) (switches : Switches) : Model :=
  { m with options := { m.options with switches } }

end Model

end Service

end ClientGen

/-! ## Prerequisites -/

namespace ClientGen.Service

structure Prerequisites where
  issues : List String
  deriving DecidableEq, Repr

namespace Prerequisites

def isValid (p : Prerequisites) : Bool := p.issues.isEmpty

def toJson (p : Prerequisites) : Json :=
  .object [("isValid", .bool p.isValid), ("issues", .ofStrings p.issues)]

end Prerequisites

namespace Model

/-- The title is absent or blank. -/
def isUntitled (m : Model) : Bool :=
  match m.options.title with
  | some title => Text.isBlankText title
  | none => true

def emptyPaths (m : Model) : List String :=
  (m.paths.entries.filter fun (_, entry) => entry.operations.isEmpty).map Prod.fst

def prerequisites (m : Model) : Prerequisites where
  issues :=
    (if m.paths.isEmpty then ["model has no paths defined"] else []) ++
      (if m.isUntitled then ["model has no title; the client will be named `Client`"] else []) ++
      m.emptyPaths.map fun template => "path `" ++ template ++ "` defines no operations"

end Model

end ClientGen.Service
