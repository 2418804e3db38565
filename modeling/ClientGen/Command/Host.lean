import ClientGen.Emission.Switches
import ClientGen.Recovery.Outcome
import ClientGen.Service.Decode
import ClientGen.Text.Basic

/-!
# Hosts

What a command needs of the place where it runs: files, the environment, scripts for shells, and two
streams of text.

A path is a text with slashes. Neither an empty component nor `.` counts.

A failure is told as a chain of messages, each the cause of the one before.
-/

namespace ClientGen.Command

inductive FileError where
  | notFound
  | alreadyThere
  | notFolder
  | isFolder
  | other (message : String)
  deriving DecidableEq, Repr

def FileError.message : FileError → String
  | .notFound => "No such file or directory (os error 2)"
  | .alreadyThere => "File exists (os error 17)"
  | .notFolder => "Not a directory (os error 20)"
  | .isFolder => "Is a directory (os error 21)"
  | .other message => message

class Host (m : Type → Type) where
  readFile : String → m (Except FileError String)
  writeFile : String → String → m (Except FileError Unit)
  /-- Creates a folder and the folders above it, where they are missing. -/
  createFolder : String → m (Except FileError Unit)
  isThere : String → m Bool
  environment : m Environment
  /-- The script that completes commands in a shell, as the parser of the command line writes it. -/
  completionScript : String → m String
  /-- Puts text on the stream for results. -/
  print : String → m Unit
  /-- Puts text on the stream for messages. -/
  report : String → m Unit

end ClientGen.Command

/-! ## Paths -/

namespace ClientGen.Command.Path

/-- A path below a folder; one that begins with a slash stands for itself. -/
def join (folder path : String) : String :=
  if folder = "" ∨ path.toList.head? = some '/' then path
  else if folder.toList.getLast? = some '/' then folder ++ path
  else folder ++ "/" ++ path

/-- Without slashes and components `.` at the end, the text being read from its end. -/
def trimReversed : List Char → List Char
  | ['/'] => ['/']
  | '/' :: rest => trimReversed rest
  | '.' :: '/' :: rest => trimReversed ('/' :: rest)
  | s => s

def parent (path : String) : String :=
  String.ofList (trimReversed (path.toList.reverse.dropWhile (· ≠ '/'))).reverse

def components (path : String) : List String :=
  ((Text.cut (· == '/') path.toList).map String.ofList).filter fun c => c ≠ "" ∧ c ≠ "."

/-- What stands behind the last dot of a file's name. A dot at the front of the name opens no extension. -/
def extension? (path : String) : Option String :=
  (components path).getLast?.bind fun name =>
    let reversed := name.toList.reverse
    match reversed.dropWhile (· ≠ '.') with
    | _ :: _ :: _ => if name = ".." then none else some (String.ofList (reversed.takeWhile (· ≠ '.')).reverse)
    | _ => none

end ClientGen.Command.Path

/-! ## Failures of commands -/

namespace ClientGen.Command

inductive Failure where
  | configUnreadable (file : String) (e : FileError)
  | configMalformed (file : String)
  | configThere (file : String)
  | configUnwritable (e : FileError)
  | modelUnreadable (path : String) (e : FileError)
  | modelMalformed (path : String) (e : Service.LoadError)
  | modelFaulty (fault : ModelFault)
  | notBuilt (e : BuildError)
  | outputUncreatable (path : String) (e : FileError)
  | folderUncreatable (path : String) (e : FileError)
  | fileUnwritable (path : String) (e : FileError)
  | outputsDiffer
  deriving DecidableEq, Repr

def loadErrorText : Service.LoadError → String
  | .yaml => "failed to parse YAML"
  | .json => "failed to parse JSON"

def buildCause : BuildError → String
  | .model fault => fault.message
  | .baseline _ e => e.message

def Failure.chain : Failure → List String
  | .configUnreadable file e => ["failed to read config " ++ file ++ ": " ++ e.message]
  | .configMalformed file => ["failed to parse config " ++ file]
  | .configThere file => [file ++ " already exists. Use --force to overwrite."]
  | .configUnwritable e => [e.message]
  | .modelUnreadable path e => ["failed to read " ++ path, e.message]
  | .modelMalformed path e => ["failed to load " ++ path, loadErrorText e]
  | .modelFaulty fault => [fault.message]
  | .notBuilt e => [e.message, buildCause e]
  | .outputUncreatable path e => ["failed to create output directory " ++ path, e.message]
  | .folderUncreatable path e => ["failed to create directory " ++ path, e.message]
  | .fileUnwritable path e => ["failed to write " ++ path, e.message]
  | .outputsDiffer => ["declarative and baseline outputs differ"]

end ClientGen.Command
