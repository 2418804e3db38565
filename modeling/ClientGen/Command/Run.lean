import ClientGen.Baseline.Emitter
import ClientGen.Build.Package
import ClientGen.Command.Host
import ClientGen.Command.Invocation
import ClientGen.Comparison.Validation
import ClientGen.Declarative.Emitter
import ClientGen.Json.Printer
import ClientGen.Project.Inspection
import ClientGen.Yaml.Printer

/-!
# Running commands

What each command does on a host: which files it reads and writes, what it prints, and where it stops.
-/

namespace ClientGen.Command

variable {m : Type → Type} [Monad m] [Host m]

abbrev Program (m : Type → Type) (α : Type) := ExceptT Failure m α

def orFail {α : Type} (failure : FileError → Failure) (action : m (Except FileError α)) : Program m α :=
  ExceptT.mk do
    match ← action with
    | .ok a => pure (.ok a)
    | .error e => pure (.error (failure e))

def loadConfig : Program m Project.Config := do
  let file := Project.configFile
  if !(← Host.isThere (m := m) file) then pure .default
  else
    let text ← orFail (.configUnreadable file) (Host.readFile file)
    match Project.Config.ofText? text with
    | some config => pure config
    | none => throw (.configMalformed file)

/-- The model in a file. A file is YAML unless its extension is `json`. -/
def loadModel (path : String) : Program m Service.Model := do
  let text ← orFail (.modelUnreadable path) (Host.readFile path)
  let model := if Path.extension? path = some "json" then Service.Model.ofJsonText text
    else Service.Model.ofYamlText text
  match model with
  | .ok model => pure model
  | .error e => throw (.modelMalformed path e)

def reportLine (line : String) : Program m Unit := ExceptT.lift (Host.report (line ++ "\n"))

def printText (text : String) : Program m Unit := ExceptT.lift (Host.print text)

def readme : String :=
  Text.unlines
    ["# Generated Code - Do Not Edit",
     "",
     "This directory is **auto-generated** by rlc.",
     "Any manual changes will be overwritten the next time `rlc generate` is run.",
     "",
     "To regenerate, run:",
     "```",
     "rlc generate",
     "```",
     "",
     "To choose between the declarative and baseline emitters, edit `.rlc.yaml`."]

def writeBelow (folder : String) (file : GeneratedFile) : Program m Unit := do
  let path := Path.join folder file.path
  let above := Path.parent path
  orFail (.folderUncreatable above) (Host.createFolder above)
  orFail (.fileUnwritable path) (Host.writeFile path file.content)

def writtenLine (folder : String) (e : Emitted) : String :=
  "  wrote " ++ Path.join folder e.file.path ++ " (" ++ e.via.name ++ ", " ++ toString e.attempts ++ " attempt(s))"

def failureLines (c : Counters) : List String :=
  if c.totalErrors = 0 then []
  else
    ("Declarative path failed " ++ toString c.totalErrors ++
      " time(s); affected files came from the baseline:") ::
    (c.errors.entries.filter fun (_, n) => 0 < n).map fun (context, n) => "  " ++ context ++ ": " ++ toString n

def stockBuilder (model : Service.Model) (flags : Flags) (policy : RetryPolicy) : Builder Unit :=
  ⟨model, flags, policy, Declarative.emit.lift, Baseline.emit.lift⟩

def writePackage (folder : String) (package : Package) (counters : Counters) : Program m Unit := do
  orFail (.outputUncreatable folder) (Host.createFolder folder)
  package.files.forM fun e => writeBelow folder e.file
  package.files.forM fun e => reportLine (writtenLine folder e)
  let note := Path.join folder "README.md"
  orFail (.fileUnwritable note) (Host.writeFile note readme)
  reportLine ("  wrote " ++ note)
  (failureLines counters).forM reportLine
  reportLine ("Generated " ++ toString (package.files.length + 1) ++ " files in " ++ folder)

def generate (input output : Option String) (forced : Option Bool) : Program m Unit := do
  let config ← loadConfig
  let folder := output.getD config.output
  let model ← loadModel (input.getD config.input)
  let command := (forced.map Switches.forced).getD .unset
  let flags := Project.flagsFor model config command (← Host.environment (m := m))
  reportLine ("Generating " ++ model.clientName ++ " → " ++ folder)
  match (stockBuilder model flags config.retry).complete ⟨.empty, .empty, ()⟩ with
  | (.error e, _) => throw (.notBuilt e)
  | (.ok package, progress) => writePackage folder package progress.counters

def resultLines (r : ValidationResult) : List String :=
  (r.name ++ " ... " ++ (if r.passed then "ok" else "FAILED")) ::
    (r.error.map ("  error: " ++ ·)).toList ++ r.differences.map ("  " ++ ·)

def summaryLines (s : ValidationSummary) : List String :=
  s.results.flatMap resultLines ++
    [toString s.passed ++ " passed, " ++ toString s.failed ++ " failed of " ++ toString s.total]

def validate (inputs : List String) (asJson : Bool) : Program m Unit := do
  let config ← loadConfig
  let models ← inputs.mapM fun path => do pure (path, ← loadModel path)
  let validator : Validator Unit := ⟨config.retry, Declarative.emit.lift, Baseline.emit.lift⟩
  let summary : ValidationSummary := ⟨(validator.validateAll models ()).1⟩
  if asJson then printText (summary.toJson.pretty ++ "\n") else (summaryLines summary).forM reportLine
  if summary.success then pure () else throw .outputsDiffer

def inspect (input : String) (format : Format) : Program m Unit := do
  let config ← loadConfig
  let model ← loadModel input
  match Project.inspect model config (← Host.environment (m := m)) with
  | .error fault => throw (.modelFaulty fault)
  | .ok summary => match format with
    | .yaml => printText (Yaml.render summary)
    | .json => printText (summary.pretty ++ "\n")

def init (force : Bool) : Program m Unit := do
  let file := Project.configFile
  if !force && (← Host.isThere (m := m) file) then throw (.configThere file)
  else
    orFail .configUnwritable (Host.writeFile file Project.Config.defaultText)
    reportLine ("Created " ++ file)

def completions (shell : String) : Program m Unit := do
  printText (← Host.completionScript (m := m) shell)

def run : Invocation → Program m Unit
  | .generate input output forced => generate input output forced
  | .validate inputs asJson => validate inputs asJson
  | .inspect input format => inspect input format
  | .init force => init force
  | .completions shell => completions shell

end ClientGen.Command
