import ClientGen.Json.Basic
import ClientGen.Json.Printer
import ClientGen.Plan.Operation
import ClientGen.Text.Basic
import ClientGen.Text.Escaped

/-!
# Requests

What goes over the wire when a planned operation is called, and what can go wrong on the way.

Arguments are looked up for every parameter, those of the client first; what has a value goes where its parameter
says: into the path, the query, a header or the body.
-/

/-! ## Requests and responses -/

namespace ClientGen.Call

structure Request where
  method : HttpMethod
  url : String
  headers : Dict String String
  body : Option Json

namespace Request

/-- A request for a link that a response gave: no headers and no body. -/
def follow (url : String) : Request := ⟨.get, url, .empty, none⟩

end Request

structure Response where
  status : Nat
  /-- Headers under their names in small letters. -/
  headers : Dict String String
  body : Json

namespace Response

def plain (status : Nat) (body : Json) : Response := ⟨status, .empty, body⟩

def withHeader (r : Response) (name value : String) : Response :=
  { r with headers := r.headers.insert (Text.lowerAscii name) value }

/-- The value of a header, whatever the case of its name. -/
def header? (r : Response) (name : String) : Option String :=
  r.headers.get? (Text.lowerAscii name)

end Response

inductive CallError where
  | unexpectedStatus (status : Nat) (expected : List String) (body : Json)
  | missingArgument (name : String)
  | transportExhausted (method : HttpMethod) (url : String)
  | missingPageItems (field : String)
  | missingPollingLocation
  | missingResultPath (path : String)

def CallError.message : CallError → String
  | .unexpectedStatus status expected _ =>
    "unexpected status code " ++ toString status ++ " (expected one of " ++ Text.escapedList expected ++ ")"
  | .missingArgument name => "missing required argument `" ++ name ++ "`"
  | .transportExhausted method url => "transport has no response scripted for " ++ method.name ++ " " ++ url
  | .missingPageItems field => "page body has no array field `" ++ field ++ "`"
  | .missingPollingLocation => "long-running response carries no polling location"
  | .missingResultPath path => "final result path `" ++ path ++ "` not found in response body"

/-! ## The request of a call -/

/-- Values by parameter, those that the client binds among them. -/
abbrev Arguments := Dict String Json

def argumentParameters (op : Plan.Operation) : List Plan.Parameter :=
  (op.clientParameters ++ op.parameters).filter fun p => !p.isOptions

/-- The value for a parameter. An optional parameter that is missing or null has none; a required one may be null but
not missing. -/
def argument (args : Arguments) (p : Plan.Parameter) : Except CallError (Option Json) :=
  match args.get? p.name with
  | none => if p.optional then .ok none else .error (.missingArgument p.name)
  | some .null => .ok (if p.optional then none else some .null)
  | some value => .ok (some value)

def supplied (args : Arguments) : List Plan.Parameter → Except CallError (List (Plan.Parameter × Json))
  | [] => .ok []
  | p :: rest => do
    let value ← argument args p
    let others ← supplied args rest
    .ok ((value.map (p, ·)).toList ++ others)

/-- A value as it stands in a path, a query or a header: a text as it is, any other value as JSON. -/
def scalarText : Json → String
  | .string s => s
  | j => j.compact

def fillPath (path : String) (p : Plan.Parameter) (value : Json) : String :=
  Text.replaced path ("\x7b" ++ p.name ++ "\x7d") (Text.Percent.encode (scalarText value))

def pathOf (path : String) (values : List (Plan.Parameter × Json)) : String :=
  values.foldl (fun path (p, value) => if p.slot == .path then fillPath path p value else path) path

def queryOf (values : List (Plan.Parameter × Json)) : List (String × String) :=
  (values.filter fun (p, _) => p.slot.isQuery).map fun (p, value) => (p.name, scalarText value)

def queryPair (pair : String × String) : String :=
  Text.Percent.encode pair.1 ++ "=" ++ Text.Percent.encode pair.2

def urlOf (path : String) (query : List (String × String)) : String :=
  if query.isEmpty then path else path ++ "?" ++ Text.joined "&" (query.map queryPair)

def headersOf (values : List (Plan.Parameter × Json)) : Dict String String :=
  .ofList (values.filterMap fun (p, value) => p.wireName?.map (·, scalarText value))

/-- What is supplied for the body; the last value wins. -/
def bodyOf? (values : List (Plan.Parameter × Json)) : Option Json :=
  ((values.filter fun (p, _) => p.slot == .body).map Prod.snd).getLast?

def request (op : Plan.Operation) (args : Arguments) : Except CallError Request := do
  let values ← supplied args (argumentParameters op)
  .ok
    { method := op.method
      url := urlOf (pathOf op.path values) (queryOf values)
      headers := headersOf values
      body := bodyOf? values }

end ClientGen.Call
