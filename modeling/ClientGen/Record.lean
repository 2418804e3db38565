import ClientGen.Json.Basic
import ClientGen.Yaml.Resolution

/-!
# Records from documents

What a document says is read the same way whether it is written as JSON or as YAML: `Readable` lists the questions
that can be put to a value, and a `Record` holds the members of a record type that a value gives, each at most once.
In JSON a record may also be an array of its members in order.
-/

namespace ClientGen

class Readable (α : Type) where
  /-- Whether the value says that nothing is there; `none` where it claims to and does not. -/
  absent? : α → Option Bool
  text? : α → Option String
  flag? : α → Option Bool
  natural? : α → Option Nat
  choice? : α → Option String
  /-- A status code, as a number below `2 ^ 16` or as any text. -/
  status? : α → Option String
  items? : α → Option (List α)
  members? : α → Option (List (String × α))
  /-- The members of a record in order, where the format allows them without names. -/
  positional? : α → Option (List α)
  /-- The value as it reads before it is known what is asked of it; `none` where it denotes nothing. -/
  content? : α → Option α

namespace Json

def choiceOf? : Json → Option String
  | .string s => some s
  | .object [(s, .null)] => some s
  | _ => none

def statusOf? : Json → Option String
  | .string s => some s
  | .int n => if 0 ≤ n ∧ n < 65536 then some (toString n) else none
  | _ => none

instance : Readable Json where
  absent? | .null => some true | _ => some false
  text? := string?
  flag? | .bool b => some b | _ => none
  natural? | .int n => if 0 ≤ n then some n.toNat else none | _ => none
  choice? := choiceOf?
  status? := statusOf?
  items? := array?
  members? | .object members => some members | _ => none
  positional? := array?
  content? j := if j.isReadable then some j else none

end Json

namespace Yaml.Node

/-- A scalar without a tag that nothing is written for. -/
def isAbsent : Node → Bool
  | .scalar text style _ => text.isEmpty && style == .plain
  | _ => false

/-- A plain scalar may say that nothing is there. With a tag it says so only under the tag for it, and under that tag
it has to. -/
def absentOf? : Node → Option Bool
  | .scalar text .plain none => some (text.isEmpty || isNullText text)
  | .scalar text .plain (some tag) =>
    if tag ≠ Tag.core "null" then some false else if isNullText text then some true else none
  | _ => some false

/-- The text of a scalar that may say a value of a type with a tag of the format: a plain one may, and a literal one
under that tag. -/
def spelled? (type : String) : Node → Option String
  | .scalar text .plain _ => some text
  | .scalar text .literal tag => if tag = some (Tag.core type) then some text else none
  | _ => none

def textOf? : Node → Option String
  | .scalar text _ _ => some text
  | _ => none

def choiceOf? : Node → Option String
  | .scalar text style tag => match tag.bind Tag.local? with
    | some name => if style == .plain && (text.isEmpty || isNullText text) then some name else none
    | none => some text
  | _ => none

def meaningOf : Node → Option Meaning
  | .scalar text style tag =>
    match tag with
    | none => some (if style == .plain then meaning text else .text)
    | some tag =>
      if tag.local?.isSome then none
      else if tag = Tag.core "bool" then (boolOf? text).map .bool
      else if tag = Tag.core "int" then (integer? text.toList).map .int
      else if tag = Tag.core "float" then if isReal text.toList then some .real else none
      else if tag = Tag.core "null" then if isNullText text then some .null else none
      else some (if style == .plain && tag.head? == some Tag.mark then meaning text else .text)
  | _ => none

def statusOf? (n : Node) : Option String :=
  match meaningOf n with
  | some .text => textOf? n
  | some (.int k) => if 0 ≤ k ∧ k < 65536 then some (toString k) else none
  | _ => none

mutual

/-- A node with what it says in place of its tags. No tag of the document's own, no alias without a node and no
integer beyond `-2 ^ 63` and `2 ^ 64` may occur in it. -/
def contentOf? : Node → Option Node
  | .scalar text style tag => match meaningOf (.scalar text style tag) with
    | some .null => some absent
    | some .text => some (.scalar text .quoted none)
    | some (.int n) =>
      if -((Nat.pow 2 63 : Nat) : Int) ≤ n ∧ n < ((Nat.pow 2 64 : Nat) : Int) then some (.scalar text .plain none)
      else none
    | some _ => some (.scalar text .plain none)
    | none => none
  | .sequence items tag =>
    if (tag.bind Tag.local?).isSome then none else (itemContents? items).map (.sequence · none)
  | .mapping entries tag =>
    if (tag.bind Tag.local?).isSome then none else (entryContents? entries).map (.mapping · none)
  | _ => none

def itemContents? : List Node → Option (List Node)
  | [] => some []
  | n :: rest => do
    let n ← contentOf? n
    some (n :: (← itemContents? rest))

def entryContents? : List (Node × Node) → Option (List (Node × Node))
  | [] => some []
  | (k, v) :: rest => do
    let k ← contentOf? k
    let v ← contentOf? v
    some ((k, v) :: (← entryContents? rest))

end

def itemsOf? : Node → Option (List Node)
  | .sequence items _ => some items
  | n => if isAbsent n then some [] else none

def membersOf? : Node → Option (List (String × Node))
  | .mapping entries _ => entries.mapM fun (k, v) => (textOf? k).map (·, v)
  | n => if isAbsent n then some [] else none

instance : Readable Node where
  absent? := absentOf?
  text? := textOf?
  flag? n := (spelled? "bool" n).bind boolOf?
  natural? n := (spelled? "int" n).bind fun text => Yaml.natural? text.toList
  choice? := choiceOf?
  status? := statusOf?
  items? := itemsOf?
  members? := membersOf?
  positional? _ := none
  content? := contentOf?

end Yaml.Node

abbrev Record (α : Type) := List (String × α)

namespace Record

variable {α β : Type}

/-- A member's name and what else it may be called. -/
abbrev Field := String × List String

def Field.accepts (f : Field) (name : String) : Bool := f.1 == name || f.2.contains name

/-- The part of a YAML document that is looked at where it is read as a record of single nodes. -/
def visit (fields : List Field) : Yaml.Visit :=
  .record (fields.flatMap fun (name, others) => (name :: others).map (·, .single))

/-- The value of the one member of a field; fails on a second one. -/
def only? (f : Field) (members : List (String × α)) : Option (Option α) :=
  match members.filter fun (name, _) => f.accepts name with
  | [] => some none
  | [(_, v)] => some (some v)
  | _ => none

/-- The members that belong to fields; other members are passed over. -/
def ofMembers? (members : List (String × α)) : List Field → Option (Record α)
  | [] => some []
  | f :: fields => do
    let value ← only? f members
    let rest ← ofMembers? members fields
    some (match value with
      | some v => (f.1, v) :: rest
      | none => rest)

/-- Values in the order of fields; the last ones may be missing. -/
def ofItems? : List Field → List α → Option (Record α)
  | _, [] => some []
  | [], _ :: _ => none
  | f :: fields, v :: rest => (ofItems? fields rest).map ((f.1, v) :: ·)

variable [Readable α]

def named? (fields : List Field) (v : α) : Option (Record α) :=
  (Readable.members? v).bind fun members => ofMembers? members fields

/-- The record of a value that names its members or, where the format allows it, lists them. -/
def read? (fields : List Field) (v : α) : Option (Record α) :=
  match Readable.positional? v with
  | some items => ofItems? fields items
  | none => named? fields v

def required (r : Record α) (name : String) (f : α → Option β) : Option β :=
  (r.lookup name).bind f

def withDefault (r : Record α) (name : String) (f : α → Option β) (default : β) : Option β :=
  match r.lookup name with
  | some v => f v
  | none => some default

def nullable (r : Record α) (name : String) (f : α → Option β) : Option (Option β) :=
  match r.lookup name with
  | some v => (Readable.absent? v).bind fun nothing => if nothing then some none else (f v).map some
  | none => some none

end Record

def Readable.list? {α β : Type} [Readable α] (f : α → Option β) (v : α) : Option (List β) :=
  (Readable.items? v).bind fun items => items.mapM f

end ClientGen
