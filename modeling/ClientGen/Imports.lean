import ClientGen.Json.Basic
import ClientGen.Reference.Registry
import ClientGen.Text.Basic

/-!
# Imports and type expressions

An import set lists the names that a file takes from each module: modules in the order in which they came in, names
in order of code points, a name at most once. A name may carry the key of the declaration that it stands for. Type
expressions are cut into identifiers and single other characters.
-/

namespace ClientGen

def isTypeChar (c : Char) : Bool := c.isAlphanum || c == '_'

def builtinTypes : List String :=
  ["Array", "Date", "Map", "OperationState", "PagedAsyncIterableIterator", "PollerLike", "Promise", "Record", "Set",
   "StreamableMethod", "Uint8Array"]

def isModelType (name : String) : Bool :=
  name.toList.head?.any Char.isUpper && !builtinTypes.contains name

/-- The model types that a type expression names, each once, in order. -/
def referencedTypes (type : String) : List String :=
  (((Text.cut (fun c => !isTypeChar c) type.toList).map String.ofList).filter isModelType).foldl
    (fun names name => if names.contains name then names else names ++ [name]) []

/-- The tokens of a text: runs of identifier characters and single other ones. -/
def tokensOf : List Char → List (List Char)
  | [] => []
  | c :: rest =>
    match tokensOf rest with
    | [] => [[c]]
    | token :: tokens =>
      if isTypeChar c && token.head?.any isTypeChar then (c :: token) :: tokens else [c] :: token :: tokens

def typeTokens (type : String) : List String :=
  (tokensOf type.toList).map String.ofList

abbrev ImportedNames := List (String × Option Reference)

/-- Rewrites the entry of a name, or puts one in at its place in the order. -/
def ImportedNames.write (names : ImportedNames) (name : String)
    (f : Option (Option Reference) → Option Reference) : ImportedNames :=
  match names with
  | [] => [(name, f none)]
  | (other, key) :: rest =>
    if other = name then (other, f (some key)) :: rest
    else if name < other then (name, f none) :: (other, key) :: rest
    else (other, key) :: ImportedNames.write rest name f

structure Imports where
  modules : Dict String ImportedNames
  deriving DecidableEq

namespace Imports

def empty : Imports := ⟨.empty⟩

def write (i : Imports) (module name : String) (f : Option (Option Reference) → Option Reference) : Imports :=
  ⟨i.modules.update module fun names => (names.getD []).write name f⟩

def add (i : Imports) (module name : String) : Imports := i.write module name fun key => key.getD none

def addKeyed (i : Imports) (module name : String) (key : Reference) : Imports :=
  i.write module name fun _ => some key

def addAll (i : Imports) (module : String) (names : List String) : Imports :=
  names.foldl (fun i name => i.add module name) i

def addModels (i : Imports) (module type : String) : Imports :=
  (referencedTypes type).foldl (fun i name => i.addKeyed module name (.model name)) i

def isEmpty (i : Imports) : Bool := i.modules.isEmpty

def size (i : Imports) : Nat := i.modules.size

def moduleNames (i : Imports) : List String := i.modules.keys

def entries (i : Imports) : List (String × ImportedNames) := i.modules.entries

def contains (i : Imports) (module name : String) : Bool :=
  (i.modules.get? module).any fun names => names.any fun (other, _) => other == name

def symbols (i : Imports) : List (String × Option Reference) := i.entries.flatMap Prod.snd

def statement (module : String) (names : List String) : String :=
  "import \x7b " ++ Text.joined ", " names ++ " \x7d from \"" ++ module ++ "\";"

def statements (i : Imports) : List String :=
  i.entries.map fun (module, names) => statement module (names.map Prod.fst)

def toJson (i : Imports) : Json :=
  .object (i.entries.map fun (module, names) => (module, .ofStrings (names.map Prod.fst)))

end Imports

end ClientGen
