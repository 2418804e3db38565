import ClientGen.Yaml.Token

/-!
# YAML documents

A document is a tree of scalars, sequences and mappings, which `Node.ofTokens?` reads off the tokens. A node may have a
name, and an alias elsewhere stands for the node with its name.
-/

namespace ClientGen.Yaml

inductive Node where
  | scalar (text : String) (style : Style) (tag : Option Tag)
  | sequence (items : List Node) (tag : Option Tag)
  | mapping (entries : List (Node × Node)) (tag : Option Tag)
  | anchored (name : String) (node : Node)
  | alias (name : String)
  | reference (number : Nat)
  deriving Inhabited

namespace Node

def absent : Node := .scalar "" .plain none

/-- The handles of tags with the beginnings that they stand for. -/
abbrev Handles := List (String × Tag)

def defaultHandles : Handles := [("!", Tag.bare), ("!!", Tag.core ""), ("", [])]

def tagOf? (handles : Handles) (handle : String) (suffix : Tag) : Option Tag :=
  (handles.lookup handle).map (· ++ suffix)

/-- The anchor and the tag before a node, each at most once, in any order. -/
def properties : List Token → Option String × Option (String × Tag) × List Token
  | .anchor a :: .tag h s :: rest => (some a, some (h, s), rest)
  | .tag h s :: .anchor a :: rest => (some a, some (h, s), rest)
  | .anchor a :: rest => (some a, none, rest)
  | .tag h s :: rest => (none, some (h, s), rest)
  | rest => (none, none, rest)

def sees (tokens : List Token) (rest : List Token) : Bool :=
  rest.head?.any tokens.contains

mutual

/-- A node and the tokens after it. A block collection may begin only where `block` allows it, a sequence without
indentation of its own only where `flush` does. -/
def parse (handles : Handles) : Nat → Bool → Bool → List Token → Option (Node × List Token)
  | 0, _, _, _ => none
  | fuel + 1, block, flush, ts => do
    match ts with
    | .alias name :: rest => some (.alias name, rest)
    | _ =>
      let (anchor, tag, ts) := properties ts
      let tag ← match tag with
        | some (h, s) => (tagOf? handles h s).map some
        | none => some none
      let name : Node → Node := fun n => match anchor with
        | some a => .anchored a n
        | none => n
      match ts with
      | .entry :: _ =>
        if flush then
          let (items, rest) ← parseFlush handles fuel ts
          some (name (.sequence items tag), rest)
        else if anchor.isSome || tag.isSome then some (name (.scalar "" .plain tag), ts)
        else none
      | .scalar text style :: rest => some (name (.scalar text style tag), rest)
      | .openSequence :: rest =>
        let (items, rest) ← parseFlowItems handles fuel true rest
        some (name (.sequence items tag), rest)
      | .openMapping :: rest =>
        let (entries, rest) ← parseFlowEntries handles fuel true rest
        some (name (.mapping entries tag), rest)
      | .openBlockSequence :: rest =>
        if block then
          let (items, rest) ← parseItems handles fuel rest
          some (name (.sequence items tag), rest)
        else if anchor.isSome || tag.isSome then some (name (.scalar "" .plain tag), ts)
        else none
      | .openBlockMapping :: rest =>
        if block then
          let (entries, rest) ← parseEntries handles fuel rest
          some (name (.mapping entries tag), rest)
        else if anchor.isSome || tag.isSome then some (name (.scalar "" .plain tag), ts)
        else none
      | _ =>
        if anchor.isSome || tag.isSome then some (name (.scalar "" .plain tag), ts) else none

def parseUnless (handles : Handles) :
    Nat → List Token → Bool → Bool → List Token → Option (Node × List Token)
  | 0, _, _, _, _ => none
  | fuel + 1, stop, block, flush, ts =>
    if sees stop ts then some (absent, ts) else parse handles fuel block flush ts

def parseItems (handles : Handles) : Nat → List Token → Option (List Node × List Token)
  | 0, _ => none
  | _ + 1, .closeBlock :: rest => some ([], rest)
  | fuel + 1, .entry :: rest => do
    let (item, rest) ← parseUnless handles fuel [.entry, .closeBlock] true false rest
    let (items, rest) ← parseItems handles fuel rest
    some (item :: items, rest)
  | _ + 1, _ => none

/-- The items of a sequence that stands at the indentation of its mapping. -/
def parseFlush (handles : Handles) : Nat → List Token → Option (List Node × List Token)
  | 0, _ => none
  | fuel + 1, .entry :: rest => do
    let (item, rest) ← parseUnless handles fuel [.entry, .key, .value, .closeBlock] true false rest
    let (items, rest) ← parseFlush handles fuel rest
    some (item :: items, rest)
  | _ + 1, rest => some ([], rest)

def parseEntries (handles : Handles) : Nat → List Token → Option (List (Node × Node) × List Token)
  | 0, _ => none
  | _ + 1, .closeBlock :: rest => some ([], rest)
  | fuel + 1, .key :: rest => do
    let (key, rest) ← parseUnless handles fuel [.key, .value, .closeBlock] true true rest
    let (value, rest) ← match rest with
      | .value :: rest => parseUnless handles fuel [.key, .value, .closeBlock] true true rest
      | rest => some (absent, rest)
    let (entries, rest) ← parseEntries handles fuel rest
    some ((key, value) :: entries, rest)
  | _ + 1, _ => none

/-- The items of a flow sequence; an item with a key is a mapping of its own. Where no node stands after the mark of a
key, the token that stands there goes with it. -/
def parseFlowItems (handles : Handles) : Nat → Bool → List Token → Option (List Node × List Token)
  | 0, _, _ => none
  | _ + 1, _, .closeSequence :: rest => some ([], rest)
  | fuel + 1, first, ts => do
    let ts ← if first then some ts else match ts with
      | .comma :: rest => some rest
      | _ => none
    match ts with
    | .closeSequence :: rest => some ([], rest)
    | .key :: rest =>
      let (key, rest) ←
        if sees [.value, .comma, .closeSequence] rest then some (absent, rest.tail)
        else parse handles fuel false false rest
      let (value, rest) ← match rest with
        | .value :: rest => parseUnless handles fuel [.comma, .closeSequence] false false rest
        | rest => some (absent, rest)
      let (items, rest) ← parseFlowItems handles fuel false rest
      some (.mapping [(key, value)] none :: items, rest)
    | ts =>
      let (item, rest) ← parse handles fuel false false ts
      let (items, rest) ← parseFlowItems handles fuel false rest
      some (item :: items, rest)

/-- The entries of a flow mapping; a key without a colon has an absent value. -/
def parseFlowEntries (handles : Handles) : Nat → Bool → List Token → Option (List (Node × Node) × List Token)
  | 0, _, _ => none
  | _ + 1, _, .closeMapping :: rest => some ([], rest)
  | fuel + 1, first, ts => do
    let ts ← if first then some ts else match ts with
      | .comma :: rest => some rest
      | _ => none
    match ts with
    | .closeMapping :: rest => some ([], rest)
    | .key :: rest =>
      let (key, rest) ← parseUnless handles fuel [.value, .comma, .closeMapping] false false rest
      let (value, rest) ← match rest with
        | .value :: rest => parseUnless handles fuel [.comma, .closeMapping] false false rest
        | rest => some (absent, rest)
      let (entries, rest) ← parseFlowEntries handles fuel false rest
      some ((key, value) :: entries, rest)
    | ts =>
      let (key, rest) ← parse handles fuel false false ts
      let (entries, rest) ← parseFlowEntries handles fuel false rest
      some ((key, absent) :: entries, rest)

end

/-- The handles that the directives before a document define, and what follows; a version or a handle may be given
once. -/
def directives (version : Bool) (defined : Handles) : List Token → Option (Handles × List Token)
  | .directive :: rest => if version then none else directives true defined rest
  | .tagDirective handle pre :: rest =>
    if (defined.lookup handle).isSome then none else directives version ((handle, pre) :: defined) rest
  | rest => some (defined ++ defaultHandles, rest)

def isDirective : Token → Bool
  | .directive => true
  | .tagDirective _ _ => true
  | _ => false

/-- The document of a stream of tokens, `none` inside if there is none; a second one is refused. -/
def ofTokens? (ts : List Token) : Option (Option Node) := do
  let fuel := 4 * ts.length + 4
  match ts with
  | [] => some none
  | first :: _ =>
    let (node, rest) ←
      if isDirective first || first = .documentStart then do
        let (handles, ts) ← directives false [] ts
        match ts with
        | .documentStart :: rest =>
          match rest with
          | [] => some (absent, rest)
          | t :: _ =>
            if isDirective t || t = .documentStart || t = .documentEnd then some (absent, rest)
            else parse handles fuel true false rest
        | _ => none
      else parse defaultHandles fuel true false ts
    if rest.all (· == .documentEnd) then some (some node) else none

end Node

end ClientGen.Yaml
