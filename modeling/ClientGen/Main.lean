import ClientGen.Command.Run

/-!
# The command line

The commands run on the file system and the environment of the process.
-/

namespace ClientGen.Command

def FileError.ofSystem : IO.Error → FileError
  | .noFileOrDirectory .. => .notFound
  | .alreadyExists .. => .alreadyThere
  | e => .other (toString e)

def attempt {α : Type} (action : IO α) : IO (Except FileError α) := do
  match ← action.toBaseIO with
  | .ok a => pure (.ok a)
  | .error e => pure (.error (.ofSystem e))

def currentEnvironment : IO Environment := do
  let names :=
    [variableNames.packageJson, variableNames.codeGeneration, variableNames.clientClass, variableNames.clientInterface,
     variableNames.operationFunction]
  let values ← names.mapM fun name => do pure (name, ← IO.getEnv name)
  pure fun name => (values.lookup name).join

def createFolderAt (path : String) : IO Unit :=
  if path = "" then pure () else IO.FS.createDirAll path

instance : Host IO where
  readFile path := attempt (IO.FS.readFile path)
  writeFile path content := attempt (IO.FS.writeFile path content)
  createFolder path := attempt (createFolderAt path)
  isThere path := do
    match ← (IO.FS.Handle.mk path .read).toBaseIO with
    | .ok _ => pure true
    | .error _ => pure false
  environment := currentEnvironment
  -- The scripts belong to a parser that is not part of this library.
  completionScript _ := pure ""
  print text := do (← IO.getStdout).putStr text
  report text := do (← IO.getStderr).putStr text

def failureText (f : Failure) : String :=
  match f.chain with
  | [] => ""
  | [message] => "Error: " ++ message ++ "\n"
  | [message, cause] => "Error: " ++ message ++ "\n\nCaused by:\n    " ++ cause ++ "\n"
  | message :: causes => "Error: " ++ message ++ "\n\nCaused by:\n    " ++ Text.joined "\n    " causes ++ "\n"

def usageText : Usage → String
  | .missingCommand => "no command is given"
  | .unknownCommand => "there is no such command"
  | .unknownArgument => "there is no such argument"
  | .missingArgument => "a required argument is missing"
  | .conflict => "arguments exclude each other"
  | .invalidValue => "an argument has no valid value"
  | .unexpectedValue => "a switch takes no value"
  | .version => "rlc 0.3.0"
  | .help => "usage: rlc (generate | validate | inspect | init | completions) [options]"

end ClientGen.Command

open ClientGen.Command in
def main (args : List String) : IO UInt32 := do
  match Invocation.ofArguments args with
  | .error usage =>
    IO.eprintln (usageText usage)
    pure (if usage = .version ∨ usage = .help then 0 else 2)
  | .ok invocation =>
    match ← (run invocation : Program IO Unit).run with
    | .ok () => pure 0
    | .error failure =>
      IO.eprint (failureText failure)
      pure 1
