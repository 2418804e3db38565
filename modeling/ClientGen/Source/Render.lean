import ClientGen.Source.Tree
import ClientGen.Text.Basic

/-!
# Rendering

The imported names and the top-level declarations of a file are its symbols. A name may stand once, and a key may be
bound to one name. Parameters bind their keys within their own function.

A file is rendered after its symbols are checked, so that a reference may come before the declaration that it refers
to. Imports and declarations are separated by blank lines.
-/

/-! ## Symbols of a file -/

namespace ClientGen.Source

inductive RenderError where
  | unresolvedReference (key : String)
  | conflictingSymbol (key existing name : String)
  | duplicateDeclaration (name : String)
  deriving DecidableEq, Repr

def RenderError.message : RenderError → String
  | .unresolvedReference key => "reference `" ++ key ++ "` does not resolve to any declaration or import"
  | .conflictingSymbol key existing name =>
    "reference `" ++ key ++ "` is bound to both `" ++ existing ++ "` and `" ++ name ++ "`"
  | .duplicateDeclaration name => "`" ++ name ++ "` is declared more than once in the same file"

abbrev Symbol := String × Option Reference

def File.symbols (f : File) : List Symbol :=
  f.imports.flatMap Import.names ++ f.declarations.map fun d => (d.name, d.key)

/-- The name that the first symbol with a key has. -/
def nameOf? (symbols : List Symbol) (key : Reference) : Option String :=
  (symbols.find? fun (_, k) => k == some key).map Prod.fst

/-- Fails on the first symbol whose name or key an earlier one has; `before` holds the earlier ones. -/
def checkSymbols (before : List Symbol) : List Symbol → Except RenderError Unit
  | [] => .ok ()
  | (name, key) :: rest =>
    if before.any (·.1 == name) then .error (.duplicateDeclaration name)
    else match key with
      | some k => match nameOf? before k with
        | some existing => .error (.conflictingSymbol k.composite existing name)
        | none => checkSymbols (before ++ [(name, key)]) rest
      | none => checkSymbols (before ++ [(name, key)]) rest

abbrev Scope := Reference → Option String

def File.scope (f : File) : Scope := nameOf? f.symbols

/-- The name of the last parameter with a key. -/
def paramName? (params : List Param) (key : Reference) : Option String :=
  (params.reverse.find? fun p => p.key == some key).map Param.name

/-- The names inside a function: those of its parameters before those of the file. -/
def withParams (params : List Param) (scope : Scope) : Scope :=
  fun key => paramName? params key <|> scope key

/-! ## Rendering -/

def indent : String := "  "

def renderCode (scope : Scope) : Code → Except RenderError String
  | [] => .ok ""
  | .text s :: rest => do .ok (s ++ (← renderCode scope rest))
  | .ref key :: rest => match scope key with
    | some name => do .ok (name ++ (← renderCode scope rest))
    | none => .error (.unresolvedReference key.composite)

def renderImport (i : Import) : String :=
  "import \x7b " ++ Text.joined ", " (i.names.map Prod.fst) ++ " \x7d from \"" ++ i.module ++ "\";\n"

def renderParam (scope : Scope) (p : Param) : Except RenderError String := do
  let type ← renderCode scope p.type
  match p.default with
  | some value => .ok (p.name ++ ": " ++ type ++ " = " ++ (← renderCode scope value))
  | none => .ok (p.name ++ (if p.optional then "?" else "") ++ ": " ++ type)

def renderParams (scope : Scope) (ps : List Param) : Except RenderError String := do
  .ok (Text.joined ", " (← ps.mapM (renderParam scope)))

/-- A line of a body; an empty one gets no indentation. -/
def renderLine (scope : Scope) (depth : Nat) (line : Code) : Except RenderError String := do
  let text ← renderCode scope line
  .ok (if text = "" then "\n" else Text.concat (List.replicate depth indent) ++ text ++ "\n")

def renderBody (scope : Scope) (depth : Nat) (lines : List Code) : Except RenderError String := do
  .ok (Text.concat (← lines.mapM (renderLine scope depth)))

def docTextLines (text : String) : List String :=
  (Text.lines (Text.trim text.toList)).map fun line => String.ofList (Text.trimEnd line)

def docLine (margin line : String) : String :=
  if line = "" then margin ++ " *\n" else margin ++ " * " ++ line ++ "\n"

/-- A documentation comment, on one line or starred. -/
def docComment (doc : Option String) (margin : String) : String :=
  match doc with
  | none => ""
  | some text => match docTextLines text with
    | [] => ""
    | [line] => margin ++ "/** " ++ line ++ " */\n"
    | lines => margin ++ "/**\n" ++ Text.concat (lines.map (docLine margin)) ++ margin ++ " */\n"

def renderField (scope : Scope) (f : Field) : Except RenderError String := do
  let type ← renderCode scope f.type
  .ok (indent ++ (if f.isPrivate then "private" else "public") ++ " " ++ (if f.isReadonly then "readonly " else "") ++
    f.name ++ ": " ++ type ++ ";\n")

def renderReturn (scope : Scope) : Option Code → Except RenderError String
  | some type => do .ok (": " ++ (← renderCode scope type))
  | none => .ok ""

def renderMethod (scope : Scope) (name : String) (returnType : Option Code) (m : Method) :
    Except RenderError String := do
  let inner := withParams m.params scope
  let result ← renderReturn inner returnType
  let params ← renderParams inner m.params
  let body ← renderBody inner 2 m.body
  .ok (docComment m.doc indent ++ indent ++ (if m.isAsync then "async " else "") ++ name ++ "(" ++ params ++ ")" ++
    result ++ " \x7b\n" ++ body ++ indent ++ "\x7d\n")

def ClassMember.isField : ClassMember → Bool
  | .field _ => true
  | _ => false

/-- A member of a class; a constructor has neither name nor return type of its own. -/
def renderClassMember (scope : Scope) : ClassMember → Except RenderError String
  | .field f => renderField scope f
  | .constructor m => renderMethod scope "constructor" none m
  | .method m => renderMethod scope m.name m.returnType m

/-- The members of a class after one; only fields stand together without a blank line. -/
def renderMembersAfter (scope : Scope) (previous : ClassMember) : List ClassMember → Except RenderError String
  | [] => .ok ""
  | m :: rest => do
    let text ← renderClassMember scope m
    let others ← renderMembersAfter scope m rest
    .ok ((if previous.isField && m.isField then "" else "\n") ++ text ++ others)

def renderMembers (scope : Scope) : List ClassMember → Except RenderError String
  | [] => .ok ""
  | m :: rest => do
    let text ← renderClassMember scope m
    .ok (text ++ (← renderMembersAfter scope m rest))

def renderInterfaceMember (scope : Scope) (m : InterfaceMember) : Except RenderError String := do
  let params ← renderParams scope m.params
  let result ← renderCode scope m.returnType
  .ok (docComment m.doc indent ++ indent ++ m.name.getD "" ++ "(" ++ params ++ "): " ++ result ++ ";\n")

def exportWord (exported : Bool) : String := if exported then "export " else ""

def renderFunction (scope : Scope) (opening name : String) (f : Function) : Except RenderError String := do
  let inner := withParams f.params scope
  let params ← renderParams inner f.params
  let result ← renderCode inner f.returnType
  let body ← renderBody inner 1 f.body
  .ok (opening ++ (if f.isAsync then "async " else "") ++ "function " ++ name ++ "(" ++ params ++ "): " ++ result ++
    " \x7b\n" ++ body ++ "\x7d\n")

def renderDeclaration (scope : Scope) (d : Declaration) : Except RenderError String :=
  let opening := docComment d.doc "" ++ exportWord d.exported
  match d.content with
  | .classDecl members => do
    .ok (opening ++ "class " ++ d.name ++ " \x7b\n" ++ (← renderMembers scope members) ++ "\x7d\n")
  | .interfaceDecl members => do
    let texts ← members.mapM (renderInterfaceMember scope)
    .ok (opening ++ "interface " ++ d.name ++ " \x7b\n" ++ Text.concat texts ++ "\x7d\n")
  | .typeAlias type => do .ok (opening ++ "type " ++ d.name ++ " = " ++ (← renderCode scope type) ++ ";\n")
  | .function f => renderFunction scope opening d.name f

def render (f : File) : Except RenderError String := do
  checkSymbols [] f.symbols
  let texts ← f.declarations.mapM (renderDeclaration f.scope)
  let gap := if f.imports.isEmpty || f.declarations.isEmpty then "" else "\n"
  .ok (Text.concat (f.imports.map renderImport) ++ gap ++ Text.joined "\n" texts)

end ClientGen.Source
