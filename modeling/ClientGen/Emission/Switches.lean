import ClientGen.Json.Basic
import ClientGen.Text.Basic
import ClientGen.Text.LetterCase

/-!
# Targets, switches and flags

A package is emitted target by target. Each target can be produced in two ways: from a document tree, or from a
template as the baseline.

Switches say for which targets the declarative way is on; each may be left open. Layers of switches are laid over one
another, the last one that sets a switch winning, and what is still open then comes from the environment. The result
is a set of flags with nothing open.
-/

/-! ## What is emitted, and how -/

namespace ClientGen

inductive Target where
  | clientDefinitions
  | clientClass
  | operationFunctions
  | packageJson
  deriving DecidableEq, Repr

namespace Target

def all : List Target := [.clientDefinitions, .clientClass, .operationFunctions, .packageJson]

def name : Target → String
  | .clientDefinitions => "clientDefinitions"
  | .clientClass => "clientClass"
  | .operationFunctions => "operationFunctions"
  | .packageJson => "packageJson"

end Target

inductive Via where
  | declarative
  | baseline
  deriving DecidableEq, Repr

namespace Via

def all : List Via := [.declarative, .baseline]

def name : Via → String
  | .declarative => "declarative"
  | .baseline => "baseline"

end Via

structure GeneratedFile where
  path : String
  content : String
  deriving DecidableEq, Repr

/-! ## Switches and flags -/

/-- Explicit switches; `none` leaves one open. -/
structure Switches where
  packageJson : Option Bool
  codeGeneration : Option Bool
  clientClass : Option Bool
  clientInterface : Option Bool
  operationFunction : Option Bool
  deriving DecidableEq, Repr

namespace Switches

def unset : Switches := ⟨none, none, none, none, none⟩

def forced (enabled : Bool) : Switches := ⟨some enabled, some enabled, some enabled, some enabled, some enabled⟩

/-- Lays a second layer over the first; what it sets wins. -/
def overlay (lower upper : Switches) : Switches where
  packageJson := upper.packageJson <|> lower.packageJson
  codeGeneration := upper.codeGeneration <|> lower.codeGeneration
  clientClass := upper.clientClass <|> lower.clientClass
  clientInterface := upper.clientInterface <|> lower.clientInterface
  operationFunction := upper.operationFunction <|> lower.operationFunction

def members (s : Switches) : List (String × Json) :=
  [("useAlloyPackageJson", .ofOption .bool s.packageJson),
   ("useAlloyCodeGeneration", .ofOption .bool s.codeGeneration),
   ("clientClass", .ofOption .bool s.clientClass),
   ("clientInterface", .ofOption .bool s.clientInterface),
   ("operationFunction", .ofOption .bool s.operationFunction)]

def toJson (s : Switches) : Json := .object s.members

end Switches

abbrev Environment := String → Option String

def toggle? (text : String) : Option Bool :=
  let t := Text.lowerAscii (Text.trimmed text)
  if t = "true" ∨ t = "1" then some true else if t = "false" ∨ t = "0" then some false else none

structure Variables where
  packageJson : String
  codeGeneration : String
  clientClass : String
  clientInterface : String
  operationFunction : String

def variableNames : Variables where
  packageJson := "TYPESPEC_USE_ALLOY_PACKAGE_JSON"
  codeGeneration := "TYPESPEC_USE_ALLOY_CODE_GENERATION"
  clientClass := "TYPESPEC_USE_ALLOY_CLIENT_CLASS"
  clientInterface := "TYPESPEC_USE_ALLOY_CLIENT_INTERFACE"
  operationFunction := "TYPESPEC_USE_ALLOY_OPERATION_FUNCTION"

/-- Switches with nothing left open. -/
structure Flags where
  packageJson : Bool
  codeGeneration : Bool
  clientClass : Bool
  clientInterface : Bool
  operationFunction : Bool
  deriving DecidableEq, Repr

namespace Flags

def all (enabled : Bool) : Flags := ⟨enabled, enabled, enabled, enabled, enabled⟩

/-- A switch, else its variable in the environment, else a default. -/
def settle (env : Environment) (switch : Option Bool) (name : String) (default : Bool) : Bool :=
  (switch <|> (env name).bind toggle?).getD default

/-- Settles all switches; those of single targets default to the one for code generation. -/
def resolve (s : Switches) (env : Environment) : Flags :=
  let codeGeneration := settle env s.codeGeneration variableNames.codeGeneration false
  { packageJson := settle env s.packageJson variableNames.packageJson false
    codeGeneration := codeGeneration
    clientClass := settle env s.clientClass variableNames.clientClass codeGeneration
    clientInterface := settle env s.clientInterface variableNames.clientInterface codeGeneration
    operationFunction := settle env s.operationFunction variableNames.operationFunction codeGeneration }

/-- The declarative way is on for a target. -/
def enabledFor (f : Flags) : Target → Bool
  | .clientDefinitions => f.clientInterface
  | .clientClass => f.clientClass
  | .operationFunctions => f.operationFunction
  | .packageJson => f.packageJson

def toJson (f : Flags) : Json :=
  .object
    [("packageJson", .bool f.packageJson), ("codeGeneration", .bool f.codeGeneration),
     ("clientClass", .bool f.clientClass), ("clientInterface", .bool f.clientInterface),
     ("operationFunction", .bool f.operationFunction)]

end Flags

end ClientGen
