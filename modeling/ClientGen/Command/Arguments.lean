/-!
# Arguments

A command takes options and perhaps positional arguments. An option is written `--name value`, `--name=value` or, with
one letter, `-n value`, `-n=value` or `-nvalue`; a switch has no value. After `--` everything is positional. What an
option or a position holds is looked at only when the next argument has been recognised.
-/

namespace ClientGen.Command

inductive Usage where
  | missingCommand
  | unknownCommand
  | unknownArgument
  | missingArgument
  | conflict
  | invalidValue
  | unexpectedValue
  | version
  | help
  deriving DecidableEq, Repr

inductive Role where
  | value (accepts : String → Bool)
  | switch
  | stop (usage : Usage)

structure OptionSpec where
  name : String
  letter : Option Char
  role : Role

structure PositionSpec where
  many : Bool
  accepts : String → Bool

structure Grammar where
  options : List OptionSpec
  positions : Option PositionSpec

/-- What was given last and is not looked at yet. -/
inductive Pending where
  | nothing
  | option (name : String) (accepts : String → Bool) (value : Option String)
  | positions (values : List String)

structure Given where
  /-- Options with their values, those of switches empty. -/
  options : List (String × String)
  positions : List String
  pending : Pending

namespace Given

def nothing : Given := ⟨[], [], .nothing⟩

def has (g : Given) (name : String) : Bool := (g.options.lookup name).isSome

def value? (g : Given) (name : String) : Option String := g.options.lookup name

def add (g : Given) (name value : String) (accepts : String → Bool) : Except Usage Given :=
  if g.has name then .error .conflict
  else if accepts value then .ok { g with options := g.options ++ [(name, value)], pending := .nothing }
  else .error .invalidValue

def settle (grammar : Grammar) (g : Given) : Except Usage Given :=
  match g.pending with
  | .nothing => .ok g
  | .option _ _ none => .error .invalidValue
  | .option name accepts (some value) => g.add name value accepts
  | .positions values =>
    if values.all fun v => grammar.positions.all fun p => p.accepts v then
      .ok { g with positions := g.positions ++ values, pending := .nothing }
    else .error .invalidValue

end Given

namespace Grammar

def give (grammar : Grammar) (o : OptionSpec) (attached : Option String) (g : Given) : Except Usage Given := do
  let g ← g.settle grammar
  match o.role, attached with
  | .value accepts, some value => g.add o.name value accepts
  | .value accepts, none => .ok { g with pending := .option o.name accepts none }
  | .switch, _ => g.add o.name "" fun _ => true
  | .stop usage, _ => .error usage

def long (grammar : Grammar) (name : String) (attached : Option String) (g : Given) : Except Usage Given :=
  match grammar.options.find? fun o => o.name == name with
  | none => .error .unknownArgument
  | some o => match o.role, attached with
    | .value _, _ => grammar.give o attached g
    | _, none => grammar.give o none g
    | _, some _ => .error .unexpectedValue

def attachedTo : List Char → Option String
  | [] => none
  | '=' :: value => some (String.ofList value)
  | value => some (String.ofList value)

/-- Options by letters. One that takes a value takes all that follows. -/
def short (grammar : Grammar) : List Char → Given → Except Usage Given
  | [], g => .ok g
  | c :: rest, g => match grammar.options.find? fun o => o.letter == some c with
    | none => .error .unknownArgument
    | some o => match o.role with
      | .value _ => grammar.give o (attachedTo rest) g
      | _ => do
        let g ← grammar.give o none g
        short grammar rest g

def position (grammar : Grammar) (value : String) (g : Given) : Except Usage Given :=
  match grammar.positions, g.pending with
  | none, _ => .error .unknownArgument
  | some p, .positions values =>
    if p.many then .ok { g with pending := .positions (values ++ [value]) } else .error .unknownArgument
  | some p, _ =>
    if !p.many && !g.positions.isEmpty then .error .unknownArgument
    else do .ok { ← g.settle grammar with pending := .positions [value] }

def cutName (s : List Char) : String × Option String :=
  match s.dropWhile (· ≠ '=') with
  | [] => (String.ofList s, none)
  | _ :: value => (String.ofList (s.takeWhile (· ≠ '=')), some (String.ofList value))

/-- One argument before any `--`. -/
def argument (grammar : Grammar) (arg : String) (g : Given) : Except Usage Given :=
  match arg.toList, g.pending with
  | '-' :: '-' :: rest, _ => grammar.long (cutName rest).1 (cutName rest).2 g
  | '-' :: c :: rest, _ => grammar.short (c :: rest) g
  | _, .option name accepts none => .ok { g with pending := .option name accepts (some arg) }
  | _, _ => grammar.position arg g

/-- All arguments; `only` holds once they are all positional. -/
def read (grammar : Grammar) (only : Bool) : List String → Given → Except Usage Given
  | [], g => g.settle grammar
  | arg :: rest, g =>
    if only then do read grammar true rest (← grammar.position arg g)
    else if arg = "--" then read grammar true rest g
    else do read grammar false rest (← grammar.argument arg g)

end Grammar

end ClientGen.Command
