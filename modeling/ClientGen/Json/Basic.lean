import ClientGen.Dict
import ClientGen.Number.Shortest

/-!
# JSON values

Objects keep their members in order. A value that is spelled correctly may still denote nothing, such as a number
beyond the doubles: it can be passed over but not read, and stands as `unreadable`.
-/

namespace ClientGen

inductive Json where
  | null
  | bool (value : Bool)
  | int (value : Int)
  | double (value : Double)
  | string (text : String)
  | array (items : List Json)
  | object (members : List (String × Json))
  | unreadable
  deriving Inhabited

namespace Json

def ofStrings (items : List String) : Json :=
  .array (items.map .string)

def ofOption {α : Type} (f : α → Json) : Option α → Json
  | none => .null
  | some a => f a

/-- The member of an object with a name, or the item of nothing else. -/
def get? (name : String) : Json → Option Json
  | .object members => Dict.find? name members
  | _ => none

def string? : Json → Option String
  | .string text => some text
  | _ => none

def array? : Json → Option (List Json)
  | .array items => some items
  | _ => none

mutual

/-- A value with each name of an object standing once, where it stood first, with the member it had last. -/
def distinct : Json → Json
  | .array items => .array (distinctItems items)
  | .object members => .object (Dict.ofList (distinctMembers members)).entries
  | j => j

def distinctItems : List Json → List Json
  | [] => []
  | j :: rest => distinct j :: distinctItems rest

def distinctMembers : List (String × Json) → List (String × Json)
  | [] => []
  | (name, j) :: rest => (name, distinct j) :: distinctMembers rest

end

mutual

/-- A value denotes something through and through. -/
def isReadable : Json → Bool
  | .unreadable => false
  | .array items => areReadable items
  | .object members => haveReadable members
  | _ => true

def areReadable : List Json → Bool
  | [] => true
  | j :: rest => isReadable j && areReadable rest

def haveReadable : List (String × Json) → Bool
  | [] => true
  | (_, j) :: rest => isReadable j && haveReadable rest

end

end Json

end ClientGen
