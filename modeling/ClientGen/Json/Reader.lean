import ClientGen.Json.Token

/-!
# JSON from text

Tokens are read one at a time onto a stack of the arrays and objects that stand open. Deeper than 127 of them, and
under a name with half of a surrogate pair, a value is unreadable.
-/

namespace ClientGen.Json

/-- What is read of an array or object that stands open, last item first. -/
inductive Frame where
  | array (items : List Json)
  | object (members : List (Option String × Json))
  | member (members : List (Option String × Json)) (name : Option String)

inductive Expect where
  | value
  | itemOrClose
  | nameOrClose
  | name
  | colon
  | separator

/-- A place in the reading of a text: the frames from the innermost out, and what may come next or the value that is
complete. -/
inductive Place where
  | inside (frames : List Frame) (expect : Expect)
  | complete (value : Json)

/-- The object with the members read; unreadable if one of the names is. -/
def objectOf (members : List (Option String × Json)) : Json :=
  match members.reverse.mapM fun (name, j) => name.map (·, j) with
  | some members => .object members
  | none => .unreadable

/-- A value of an array or object that stands inside `depth` others. -/
def atDepth (depth : Nat) (j : Json) : Json :=
  if depth < 127 then j else .unreadable

/-- A complete value goes into the innermost frame. -/
def put (j : Json) : List Frame → Option Place
  | [] => some (.complete j)
  | .array items :: frames => some (.inside (.array (j :: items) :: frames) .separator)
  | .member members name :: frames => some (.inside (.object ((name, j) :: members) :: frames) .separator)
  | .object _ :: _ => none

def beginValue (frames : List Frame) : Token → Option Place
  | .openArray => some (.inside (.array [] :: frames) .itemOrClose)
  | .openObject => some (.inside (.object [] :: frames) .nameOrClose)
  | .text (some s) => put (.string s) frames
  | .text none => put .unreadable frames
  | .scalar j => put j frames
  | _ => none

def closeArray : List Frame → Option Place
  | .array items :: frames => put (atDepth frames.length (.array items.reverse)) frames
  | _ => none

def closeObject : List Frame → Option Place
  | .object members :: frames => put (atDepth frames.length (objectOf members)) frames
  | _ => none

def step : Place → Token → Option Place
  | .complete _, _ => none
  | .inside frames .value, t => beginValue frames t
  | .inside frames .itemOrClose, .closeArray => closeArray frames
  | .inside frames .itemOrClose, t => beginValue frames t
  | .inside frames .nameOrClose, .closeObject => closeObject frames
  | .inside (.object members :: frames) .nameOrClose, .text name =>
    some (.inside (.member members name :: frames) .colon)
  | .inside (.object members :: frames) .name, .text name => some (.inside (.member members name :: frames) .colon)
  | .inside frames .colon, .colon => some (.inside frames .value)
  | .inside frames .separator, .closeArray => closeArray frames
  | .inside frames .separator, .closeObject => closeObject frames
  | .inside (.array items :: frames) .separator, .comma => some (.inside (.array items :: frames) .value)
  | .inside (.object members :: frames) .separator, .comma => some (.inside (.object members :: frames) .name)
  | _, _ => none

def run : Place → List Token → Option Place
  | p, [] => some p
  | p, t :: rest => (step p t).bind fun q => run q rest

def parse? (s : String) : Option Json :=
  match (tokens? s).bind (run (.inside [] .value)) with
  | some (.complete j) => some j
  | _ => none

end ClientGen.Json
