import ClientGen.Dict
import ClientGen.Yaml.Node

/-!
# YAML aliases

`Document.ofText?` gives every alias a number and says what the numbers stand for. Aliases are replaced only in the
parts of a document that are looked at, which a `Visit` describes; how many replacements one reading may take is limited
by the size of the document.
-/

namespace ClientGen.Yaml

structure Document where
  root : Node
  targets : List (Nat × Node)

structure Links where
  numbers : Dict String Nat
  begun : Nat
  /-- Named nodes that have ended: number, place among those that have begun, node. -/
  ended : List (Nat × Nat × Node)

namespace Links

def empty : Links := ⟨.empty, 0, []⟩

/-- A named node begins. Its name is numbered by how many names there were before it. -/
def enter (l : Links) (name : String) : Links :=
  { l with numbers := l.numbers.insert name l.numbers.size, begun := l.begun + 1 }

/-- A named node ends. Of nodes with one number the one that began last counts. -/
def finish (l : Links) (number place : Nat) (node : Node) : Links :=
  if l.ended.any fun (n, p, _) => n = number && place < p then l
  else { l with ended := (number, place, node) :: l.ended }

def targets (l : Links) : List (Nat × Node) :=
  l.ended.map fun (number, _, node) => (number, node)

end Links

namespace Node

mutual

/-- A node with numbers for the names of its aliases. An alias of a name that has not been met is refused. -/
def link : Node → Links → Option (Node × Links)
  | .scalar text style tag, l => some (.scalar text style tag, l)
  | .reference number, l => some (.reference number, l)
  | .alias name, l => (l.numbers.get? name).map fun number => (.reference number, l)
  | .anchored name node, l => do
    let (node, l') ← link node (l.enter name)
    some (node, l'.finish l.numbers.size l.begun node)
  | .sequence items tag, l => do
    let (items, l) ← linkItems items l
    some (.sequence items tag, l)
  | .mapping entries tag, l => do
    let (entries, l) ← linkEntries entries l
    some (.mapping entries tag, l)

def linkItems : List Node → Links → Option (List Node × Links)
  | [], l => some ([], l)
  | n :: rest, l => do
    let (n, l) ← link n l
    let (rest, l) ← linkItems rest l
    some (n :: rest, l)

def linkEntries : List (Node × Node) → Links → Option (List (Node × Node) × Links)
  | [], l => some ([], l)
  | (k, v) :: rest, l => do
    let (k, l) ← link k l
    let (v, l) ← link v l
    let (rest, l) ← linkEntries rest l
    some ((k, v) :: rest, l)

end

mutual

def size : Node → Nat
  | .anchored _ node => size node
  | .sequence items _ => sizeOfItems items + 2
  | .mapping entries _ => sizeOfEntries entries + 2
  | _ => 1

def sizeOfItems : List Node → Nat
  | [] => 0
  | n :: rest => size n + sizeOfItems rest

def sizeOfEntries : List (Node × Node) → Nat
  | [] => 0
  | (k, v) :: rest => size k + size v + sizeOfEntries rest

end

end Node

/-- A walk through the parts of a node that are looked at, with nodes put in place of the aliases met there. The state
is how many more aliases may be replaced. -/
abbrev Visit := List (Nat × Node) → Node → StateT Nat Option Node

namespace Visit

def single : Visit := fun targets n => do
  match n with
  | .reference number =>
    let left ← get
    if left = 0 then failure
    else
      set (left - 1)
      targets.lookup number
  | n => pure n

def items (visit : Visit) : Visit := fun targets n => do
  match ← single targets n with
  | .sequence items tag => return .sequence (← items.mapM (visit targets)) tag
  | n => pure n

def members (visit : String → Visit) : Visit := fun targets n => do
  match ← single targets n with
  | .mapping entries tag =>
    let entries ← entries.mapM fun (k, v) => do
      match ← single targets k with
      | .scalar name style tag => return (.scalar name style tag, ← visit name targets v)
      | k => return (k, v)
    return .mapping entries tag
  | n => pure n

def skip : Visit := fun _ n => pure n

/-- The members of a record; others are passed over. -/
def record (fields : List (String × Visit)) : Visit :=
  members fun name => (fields.lookup name).getD skip

/-- A node with all that is in it, with at most so many collections inside one another. -/
def content : Nat → Visit
  | 0 => fun targets n => do
    match ← single targets n with
    | .scalar text style tag => return .scalar text style tag
    | _ => failure
  | depth + 1 => fun targets n => do
    match ← single targets n with
    | .sequence items tag => return .sequence (← items.mapM (content depth targets)) tag
    | .mapping entries tag =>
      let entries ← entries.mapM fun (k, v) => do
        return (← content depth targets k, ← content depth targets v)
      return .mapping entries tag
    | n => pure n

end Visit

namespace Document

def ofText? (s : String) : Option Document := do
  let root ← Node.ofTokens? (← tokens? s)
  let (root, links) ← (root.getD Node.absent).link .empty
  some ⟨root, links.targets⟩

def allowance (d : Document) : Nat := 100 * d.root.size

def visited? (d : Document) (visit : Visit) : Option Node :=
  ((visit d.targets d.root).run d.allowance).map Prod.fst

end Document

end ClientGen.Yaml
