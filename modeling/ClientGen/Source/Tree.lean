import ClientGen.Reference.Registry

/-!
# Document trees

A source file as a tree of imports and declarations. Code is text with references in it: other declarations are never
spelled out but referred to by key, and get their names when the tree is rendered.
-/

namespace ClientGen.Source

inductive Fragment where
  | text (text : String)
  | ref (key : Reference)
  deriving DecidableEq, Repr

abbrev Code := List Fragment

namespace Code

def text (s : String) : Code := [.text s]

def ref (key : Reference) : Code := [.ref key]

def joined (separator : String) : List Code → Code
  | [] => []
  | [piece] => piece
  | piece :: next :: rest => piece ++ .text separator :: joined separator (next :: rest)

def references (c : Code) : List Reference :=
  c.filterMap fun | .ref key => some key | .text _ => none

end Code

/-- Names taken from a module, each with the key of the declaration that it stands for, if any. -/
structure Import where
  module : String
  names : List (String × Option Reference)
  deriving DecidableEq, Repr

structure Param where
  name : String
  type : Code
  optional : Bool
  default : Option Code
  key : Option Reference
  deriving DecidableEq, Repr

structure Field where
  name : String
  type : Code
  isPrivate : Bool
  isReadonly : Bool
  key : Option Reference
  deriving DecidableEq, Repr

structure Method where
  name : String
  key : Option Reference
  isAsync : Bool
  doc : Option String
  params : List Param
  returnType : Option Code
  body : List Code
  deriving DecidableEq, Repr

inductive ClassMember where
  | field (field : Field)
  | constructor (method : Method)
  | method (method : Method)
  deriving DecidableEq, Repr

/-- A call signature, or a method if it has a name. -/
structure InterfaceMember where
  name : Option String
  doc : Option String
  params : List Param
  returnType : Code
  deriving DecidableEq, Repr

structure Function where
  isAsync : Bool
  params : List Param
  returnType : Code
  body : List Code
  deriving DecidableEq, Repr

inductive Content where
  | classDecl (members : List ClassMember)
  | interfaceDecl (members : List InterfaceMember)
  | typeAlias (type : Code)
  | function (function : Function)
  deriving DecidableEq, Repr

structure Declaration where
  name : String
  key : Option Reference
  exported : Bool
  doc : Option String
  content : Content
  deriving DecidableEq, Repr

structure File where
  imports : List Import
  declarations : List Declaration
  deriving DecidableEq, Repr

end ClientGen.Source
