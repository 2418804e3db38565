import ClientGen.Command.Arguments

/-!
# Commands

The commands of the generator and how they are spelled on the command line.
-/

namespace ClientGen.Command

inductive Format where
  | yaml
  | json
  deriving DecidableEq, Repr

inductive Invocation where
  /-- Generates a package. The file of the model and the folder for the package default to those of the project. -/
  | generate (input output : Option String) (forced : Option Bool)
  | validate (inputs : List String) (asJson : Bool)
  | inspect (input : String) (format : Format)
  | init (force : Bool)
  | completions (shell : String)
  deriving DecidableEq, Repr

def isPath (s : String) : Bool := s ≠ ""

def isOneOf (words : List String) (s : String) : Bool := words.contains s

def helpOption : OptionSpec := ⟨"help", some 'h', .stop .help⟩

def versionOption : OptionSpec := ⟨"version", some 'V', .stop .version⟩

namespace Grammar

def generate : Grammar where
  options :=
    [⟨"input", some 'i', .value isPath⟩, ⟨"output", some 'o', .value isPath⟩, ⟨"declarative", none, .switch⟩,
     ⟨"baseline", none, .switch⟩, helpOption]
  positions := none

def validate : Grammar where
  options := [⟨"json", none, .switch⟩, helpOption]
  positions := some ⟨true, isPath⟩

def inspect : Grammar where
  options := [⟨"input", some 'i', .value isPath⟩, ⟨"format", none, .value (isOneOf ["yaml", "json"])⟩, helpOption]
  positions := none

def init : Grammar where
  options := [⟨"force", none, .switch⟩, helpOption]
  positions := none

def completions : Grammar where
  options := [helpOption]
  positions := some ⟨false, isOneOf ["bash", "elvish", "fish", "powershell", "zsh"]⟩

def program : Grammar where
  options := [helpOption, versionOption]
  positions := none

end Grammar

namespace Invocation

def generateOf (g : Given) : Except Usage Invocation :=
  if g.has "declarative" && g.has "baseline" then .error .conflict
  else
    let forced := if g.has "declarative" then some true else if g.has "baseline" then some false else none
    .ok (.generate (g.value? "input") (g.value? "output") forced)

def validateOf (g : Given) : Except Usage Invocation :=
  if g.positions.isEmpty then .error .missingArgument else .ok (.validate g.positions (g.has "json"))

def inspectOf (g : Given) : Except Usage Invocation :=
  match g.value? "input" with
  | none => .error .missingArgument
  | some input => .ok (.inspect input (if g.value? "format" = some "json" then .json else .yaml))

def initOf (g : Given) : Except Usage Invocation := .ok (.init (g.has "force"))

def completionsOf (g : Given) : Except Usage Invocation :=
  match g.positions with
  | shell :: _ => .ok (.completions shell)
  | [] => .error .missingArgument

/-- A command by name: what it takes, and what that asks for. -/
def command? : String → Option (Grammar × (Given → Except Usage Invocation))
  | "generate" => some (.generate, generateOf)
  | "validate" => some (.validate, validateOf)
  | "inspect" => some (.inspect, inspectOf)
  | "init" => some (.init, initOf)
  | "completions" => some (.completions, completionsOf)
  | _ => none

def isCommand (word : String) : Bool := word == "help" || (command? word).isSome

def helpOn : List String → Usage
  | [] => .help
  | [word] => if isCommand word then .help else .unknownCommand
  | _ => .unknownCommand

/-- No command is named, but there is an argument in its place. -/
def withoutCommand (arg : String) : List String → Usage
  | [] => if arg = "--" then .missingCommand else .unknownCommand
  | next :: _ =>
    if arg = "--" then if isCommand next then .unknownArgument else .unknownCommand
    else .unknownCommand

def ofArguments : List String → Except Usage Invocation
  | [] => .error .missingCommand
  | "help" :: rest => .error (helpOn rest)
  | arg :: rest => match command? arg with
    | some (grammar, meaning) => do meaning (← grammar.read false rest .nothing)
    | none =>
      if arg.toList.head? = some '-' ∧ arg ≠ "-" ∧ arg ≠ "--" then
        match Grammar.program.argument arg .nothing with
        | .error usage => .error usage
        | .ok _ => .error .missingCommand
      else .error (withoutCommand arg rest)

end Invocation

end ClientGen.Command
