import ClientGen.Command.Host
import ClientGen.Dict
import ClientGen.Text.Basic

/-!
# A host in memory

A tree of files and folders with an environment and the texts put out so far, as a host without any outside. It
has no scripts for shells.
-/

namespace ClientGen.Command

inductive Entry where
  | file (content : String)
  | folder
  deriving DecidableEq, Repr

/-- A place in the tree: names from the top down. -/
abbrev Place := List String

structure World where
  entries : Dict Place Entry
  environment : Environment
  printed : String
  reported : String

namespace World

def empty (environment : Environment) : World := ⟨.empty, environment, "", ""⟩

/-- One component further; `..` goes up. -/
def step (place : Place) (component : String) : Place :=
  if component = ".." then place.dropLast else place ++ [component]

def placeOf (path : String) : Place := (Path.components path).foldl step []

/-- What is at a place; the top is a folder. -/
def entry? (w : World) (place : Place) : Option Entry :=
  if place.isEmpty then some .folder else w.entries.get? place

def above (place : Place) : List Place :=
  (List.range place.length).map place.take

def obstacle? (w : World) (place : Place) : Option FileError :=
  (above place).findSome? fun p => match w.entry? p with
    | some .folder => none
    | some (.file _) => some .notFolder
    | none => some .notFound

def readFile (w : World) (path : String) : Except FileError String :=
  if path = "" then .error .notFound
  else
    let place := placeOf path
    match w.obstacle? place, w.entry? place with
    | some e, _ => .error e
    | none, some (.file content) => .ok content
    | none, some .folder => .error .isFolder
    | none, none => .error .notFound

def writeFile (w : World) (path content : String) : Except FileError World :=
  if path = "" then .error .notFound
  else
    let place := placeOf path
    match w.obstacle? place, w.entry? place with
    | some e, _ => .error e
    | none, some .folder => .error .isFolder
    | none, _ => .ok { w with entries := w.entries.insert place (.file content) }

def createFolders (w : World) : List Place → Except FileError World
  | [] => .ok w
  | place :: rest => match w.entry? place with
    | some .folder => createFolders w rest
    | some (.file _) => .error (if rest.isEmpty then .alreadyThere else .notFolder)
    | none => createFolders { w with entries := w.entries.insert place .folder } rest

def createFolder (w : World) (path : String) : Except FileError World :=
  let place := placeOf path
  w.createFolders (above place ++ [place])

def withFile (w : World) (path content : String) : World :=
  let place := placeOf path
  let w := (w.createFolders (above place)).toOption.getD w
  { w with entries := w.entries.insert place (.file content) }

def files (w : World) : List (String × String) :=
  w.entries.entries.filterMap fun (place, entry) => match entry with
    | .file content => some (Text.joined "/" place, content)
    | .folder => none

/-- The files of a world that another has not, or not with the same content. -/
def changed (before after : World) : List (String × String) :=
  let old := before.files
  after.files.filter fun (path, content) => old.lookup path ≠ some content

def silent (w : World) : World := { w with printed := "", reported := "" }

def change (f : World → Except FileError World) : StateM World (Except FileError Unit) := fun w =>
  match f w with
  | .ok w => (.ok (), w)
  | .error e => (.error e, w)

instance : Host (StateM World) where
  readFile path := fun w => (w.readFile path, w)
  writeFile path content := change fun w => w.writeFile path content
  createFolder path := change fun w => w.createFolder path
  isThere path := fun w => ((w.obstacle? (placeOf path)).isNone && (w.entry? (placeOf path)).isSome, w)
  environment := fun w => (w.environment, w)
  completionScript _ := fun w => ("", w)
  print text := fun w => ((), { w with printed := w.printed ++ text })
  report text := fun w => ((), { w with reported := w.reported ++ text })

end World

end ClientGen.Command
