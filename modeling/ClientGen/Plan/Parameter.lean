import ClientGen.Service.Model
import ClientGen.Text.Basic

/-!
# Planned parameters

A parameter of a service model becomes one that is ready to be emitted: its location is one of four, and it knows how
it is written in a signature. Every operation has one more parameter at the end, the bag of options.
-/

namespace ClientGen

inductive ModelFault where
  | unknownLocation (operation parameter location : String)
  | duplicateParameter (operation parameter : String)
  | emptyOperationName (path : String)
  | duplicateOperation (operation first second : String)
  deriving DecidableEq, Repr

def ModelFault.message : ModelFault → String
  | .unknownLocation operation parameter location =>
    "operation `" ++ operation ++ "` parameter `" ++ parameter ++ "` has unknown location `" ++ location ++ "`"
  | .duplicateParameter operation parameter =>
    "operation `" ++ operation ++ "` declares parameter `" ++ parameter ++ "` more than once"
  | .emptyOperationName path => "operation under path `" ++ path ++ "` has an empty name"
  | .duplicateOperation operation first second =>
    "operation `" ++ operation ++ "` is declared under both `" ++ first ++ "` and `" ++ second ++ "`"

namespace Plan

inductive Location where
  | path
  | query
  | header
  | body
  deriving DecidableEq, Repr

namespace Location

def all : List Location := [.path, .query, .header, .body]

def name : Location → String
  | .path => "path"
  | .query => "query"
  | .header => "header"
  | .body => "body"

/-- The location that a text names, blanks around it and the case of its letters aside. -/
def parse? (text : String) : Option Location :=
  let t := Text.lowerAscii (Text.trimmed text)
  all.find? fun l => l.name == t

end Location

inductive Slot where
  | path
  | query (isApiVersion : Bool)
  | header (wireName : String)
  | body
  | options
  deriving DecidableEq, Repr

namespace Slot

def location? : Slot → Option Location
  | .path => some .path
  | .query _ => some .query
  | .header _ => some .header
  | .body => some .body
  | .options => none

def isQuery : Slot → Bool
  | .query _ => true
  | _ => false

def toJson : Slot → Json
  | .path => .object [("kind", .string "path")]
  | .query isApiVersion => .object [("kind", .string "query"), ("is_api_version", .bool isApiVersion)]
  | .header wireName => .object [("kind", .string "header"), ("header_name", .string wireName)]
  | .body => .object [("kind", .string "body")]
  | .options => .object [("kind", .string "options")]

end Slot

structure Parameter where
  name : String
  type : String
  optional : Bool
  slot : Slot
  deriving DecidableEq, Repr

def optionsDefault : String := "\x7b requestOptions: \x7b\x7d \x7d"

namespace Parameter

def location? (p : Parameter) : Option Location := p.slot.location?

def isOptions (p : Parameter) : Bool := p.slot == .options

/-- The parameter in an interface: `name: Type` or `name?: Type`. -/
def signature (p : Parameter) : String :=
  p.name ++ (if p.optional then "?" else "") ++ ": " ++ p.type

/-- The initial value in a declaration; only the bag of options has one. -/
def default? (p : Parameter) : Option String :=
  if p.isOptions then some optionsDefault else none

/-- The parameter in a declaration; an initial value takes the place of the mark for optional. -/
def declaration (p : Parameter) : String :=
  match p.default? with
  | some value => p.name ++ ": " ++ p.type ++ " = " ++ value
  | none => p.signature

def wireName? (p : Parameter) : Option String :=
  match p.slot with
  | .header wireName => some wireName
  | _ => none

def toJson (p : Parameter) : Json :=
  .object
    [("name", .string p.name), ("type_name", .string p.type), ("optional", .bool p.optional), ("slot", p.slot.toJson)]

def options (type : String) : Parameter := ⟨"options", type, true, .options⟩

end Parameter

def slotAt (p : Service.Parameter) : Location → Slot
  | .path => .path
  | .query => .query p.isApiVersion
  | .header => .header (p.headerName.getD p.name)
  | .body => .body

/-- A parameter of the model, ready to be emitted; one in the path is never optional. -/
def shapeParameter (operation : String) (p : Service.Parameter) : Except ModelFault Parameter :=
  match Location.parse? p.location with
  | some location =>
    .ok
      { name := p.name, type := p.type, optional := p.optional && location != .path, slot := slotAt p location }
  | none => .error (.unknownLocation operation p.name p.location)

def reservedNames : List String := ["context", "options"]

/-- The parameters of an operation, each with whether it is bound by the client. A name that came before, or that is
reserved, is a fault. -/
def shapeParameters (operation : String) (seen : List String) :
    List Service.Parameter → Except ModelFault (List (Bool × Parameter))
  | [] => .ok []
  | p :: rest =>
    if seen.contains p.name || reservedNames.contains p.name then .error (.duplicateParameter operation p.name)
    else do
      let shaped ← shapeParameter operation p
      let others ← shapeParameters operation (p.name :: seen) rest
      .ok ((p.onClient, shaped) :: others)

end Plan

end ClientGen
