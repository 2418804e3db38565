import ClientGen.Yaml.Block
import ClientGen.Yaml.Flow
import ClientGen.Yaml.Tag

/-!
# YAML tokens

`tokens?` cuts a text into tokens, with the structure that indentation gives made explicit: block collections open
and close by tokens of their own. A scalar on one line may turn out to be a key only when the colon after it is read;
the tokens that say so go in before it then.
-/

namespace ClientGen.Yaml

inductive Style where
  | plain
  | quoted
  | literal
  | folded
  deriving DecidableEq, Repr

inductive Token where
  | directive
  | tagDirective (handle : String) (beginning : Tag)
  | documentStart
  | documentEnd
  | openBlockSequence
  | openBlockMapping
  | closeBlock
  | openSequence
  | closeSequence
  | openMapping
  | closeMapping
  | entry
  | comma
  | key
  | value
  | alias (name : String)
  | anchor (name : String)
  | tag (handle : String) (suffix : Tag)
  | scalar (text : String) (style : Style)
  deriving DecidableEq, Repr

/-- A token that may be a key: which it is, where it stands, and whether a colon has to follow. -/
structure KeyCandidate where
  token : Nat
  required : Bool
  line : Nat
  column : Nat
  offset : Nat

structure Lexer where
  cursor : Cursor
  tokens : Array Token
  flow : Nat
  /-- The column of the innermost block collection, or -1. -/
  indent : Int
  outer : List Int
  /-- The candidate of each open flow collection, the innermost first, and at last that of the block. -/
  candidates : List (Option KeyCandidate)
  keyAllowed : Bool

namespace Lexer

def start (text : List Char) : Lexer :=
  { cursor := Cursor.start text, tokens := #[], flow := 0, indent := -1, outer := [], candidates := [none]
    keyAllowed := true }

def push (x : Lexer) (t : Token) : Lexer := { x with tokens := x.tokens.push t }

def pushAt (x : Lexer) (i : Nat) (t : Token) : Lexer :=
  { x with tokens := x.tokens.insertIdxIfInBounds i t }

/-- A candidate gives way; one that had to become a key may not. -/
def dropCandidate (x : Lexer) : Option Lexer :=
  match x.candidates with
  | some k :: outer => if k.required then none else some { x with candidates := none :: outer }
  | _ => some x

/-- The next token may become a key, if one may stand here. -/
def saveCandidate (x : Lexer) : Option Lexer :=
  if x.keyAllowed then
    x.dropCandidate.map fun x =>
      let k : KeyCandidate :=
        { token := x.tokens.size, required := x.flow = 0 ∧ x.indent = x.cursor.column, line := x.cursor.line
          column := x.cursor.column, offset := x.cursor.offset }
      { x with candidates := some k :: x.candidates.drop 1 }
  else some x

/-- A candidate is out of date on another line or more than 1024 bytes on. -/
def isStale (x : Lexer) (k : KeyCandidate) : Bool :=
  k.line < x.cursor.line || k.offset + 1024 < x.cursor.offset

def dropStale (x : Lexer) : Option Lexer :=
  (x.candidates.mapM fun
    | some k => if x.isStale k then if k.required then none else some none else some (some k)
    | none => some none).map fun candidates => { x with candidates }

/-- Opens a block collection at a column, unless one stands open there; its token goes before the one with an index. -/
def openBlock (x : Lexer) (column : Nat) (i : Nat) (t : Token) : Lexer :=
  if x.flow = 0 ∧ x.indent < column then
    { x.pushAt i t with outer := x.indent :: x.outer, indent := column }
  else x

def closeBlocksFrom (x : Lexer) (column : Int) : List Int → Lexer
  | [] => x
  | parent :: outer =>
    if column < x.indent then closeBlocksFrom { x.push .closeBlock with indent := parent, outer } column outer else x

def closeBlocks (x : Lexer) (column : Int) : Lexer :=
  if x.flow = 0 then x.closeBlocksFrom column x.outer else x

def skip (n : Nat) (x : Lexer) : Lexer := { x with cursor := Cursor.skip n x.cursor }

def toNext : Nat → Lexer → Lexer
  | 0, x => x
  | fuel + 1, x =>
    let c := if x.cursor.column = 0 ∧ x.cursor.sees 0 '\ufeff' then x.cursor.next else x.cursor
    let c := c.dropWhile fun y => y == ' ' || (y == '\t' && (0 < x.flow || !x.keyAllowed))
    let c := if c.sees 0 '#' then c.dropWhile fun y => !isBreak y else c
    if c.breaksAt 0 then
      toNext fuel { x with cursor := c.nextLine.2, keyAllowed := x.keyAllowed || x.flow = 0 }
    else { x with cursor := c }

def openFlow (x : Lexer) (t : Token) : Option Lexer :=
  x.saveCandidate.map fun x =>
    skip 1 { x.push t with flow := x.flow + 1, candidates := none :: x.candidates, keyAllowed := true }

def closeFlow (x : Lexer) (t : Token) : Option Lexer :=
  x.dropCandidate.map fun x =>
    let x := x.push t
    skip 1 (if 0 < x.flow then
      { x with flow := x.flow - 1, candidates := x.candidates.drop 1, keyAllowed := false }
    else { x with keyAllowed := false })

def flowComma (x : Lexer) : Option Lexer :=
  x.dropCandidate.map fun x => skip 1 { x.push .comma with keyAllowed := true }

def blockEntry (x : Lexer) : Option Lexer :=
  if x.flow = 0 ∧ !x.keyAllowed then none
  else
    (x.openBlock x.cursor.column x.tokens.size .openBlockSequence).dropCandidate.map fun x =>
      skip 1 { x.push .entry with keyAllowed := true }

def markedKey (x : Lexer) : Option Lexer :=
  if x.flow = 0 ∧ !x.keyAllowed then none
  else
    (x.openBlock x.cursor.column x.tokens.size .openBlockMapping).dropCandidate.map fun x =>
      skip 1 { x.push .key with keyAllowed := x.flow = 0 }

/-- A colon: what stands before it on its line becomes a key. -/
def keyValue (x : Lexer) : Option Lexer :=
  match x.candidates with
  | some k :: outer =>
    let x := { x with candidates := none :: outer }.pushAt k.token .key
    some (skip 1 { (x.openBlock k.column k.token .openBlockMapping).push .value with keyAllowed := false })
  | _ =>
    if x.flow = 0 ∧ !x.keyAllowed then none
    else
      let x := x.openBlock x.cursor.column x.tokens.size .openBlockMapping
      some (skip 1 { x.push .value with keyAllowed := x.flow = 0 })

def named (x : Lexer) (t : String → Token) : Option Lexer :=
  x.saveCandidate.bind fun x =>
    let rest := x.cursor.next
    let name := rest.rest.takeWhile isNameChar
    let after := Cursor.skip name.length rest
    if name.isEmpty then none
    else if after.spaceAt 0 || (after.head.any fun y => ['?', ':', ',', ']', '\x7d', '%', '@', '\x60'].contains y) then
      some { x.push (t (String.ofList name)) with cursor := after, keyAllowed := false }
    else none

def tagAt? (c : Cursor) : Option (String × Tag × Cursor) :=
  if c.sees 1 '<' then do
    let (suffix, after) ← tagRun? true (Cursor.skip 2 c)
    if c.ahead 2 = some '>' || !after.sees 0 '>' then none else some ("", suffix, after.next)
  else
    let name := c.next.rest.takeWhile isNameChar
    let afterName := Cursor.skip (name.length + 1) c
    if afterName.sees 0 '!' then do
      let handle := "!" ++ String.ofList name ++ "!"
      let (suffix, after) ← tagRun? false afterName.next
      if after.offset = afterName.next.offset then none else some (handle, suffix, after)
    else do
      let (suffix, after) ← tagRun? false c.next
      some (if suffix.isEmpty then ("", Tag.bare, after) else ("!", suffix, after))

def tagged (x : Lexer) : Option Lexer :=
  x.saveCandidate.bind fun x =>
    (tagAt? x.cursor).bind fun (handle, suffix, after) =>
      if (0 < x.flow && after.sees 0 ',') || after.spaceAt 0 then
        some { x.push (.tag handle suffix) with cursor := after, keyAllowed := false }
      else none

def blockScalar (literal : Bool) (fuel : Nat) (x : Lexer) : Option Lexer :=
  x.dropCandidate.bind fun x =>
    (blockScalar? literal x.indent fuel x.cursor.next).map fun (text, after) =>
      { x.push (.scalar text (if literal then .literal else .folded)) with cursor := after, keyAllowed := true }

def quotedScalar (single : Bool) (fuel : Nat) (x : Lexer) : Option Lexer :=
  x.saveCandidate.bind fun x =>
    (quotedFrom single fuel x.cursor.next Folding.empty).map fun (after, f) =>
      { x.push (.scalar (String.ofList f.text.reverse) .quoted) with cursor := after, keyAllowed := false }

def plainScalar (fuel : Nat) (x : Lexer) : Option Lexer :=
  x.saveCandidate.bind fun x =>
    (plainFrom (0 < x.flow) (x.indent + 1) fuel x.cursor Folding.empty).map fun (after, f) =>
      { x.push (.scalar (String.ofList f.text.reverse) .plain) with cursor := after, keyAllowed := f.broken }

def documentMark (x : Lexer) (t : Token) : Option Lexer :=
  (x.closeBlocks (-1)).dropCandidate.map fun x => skip 3 { x.push t with keyAllowed := false }

/-- A number of a version, of nine digits at most, and what follows it. -/
def versionNumber? (c : Cursor) : Option (Nat × Cursor) :=
  let digits := c.rest.takeWhile Char.isDigit
  if digits.isEmpty || 9 < digits.length then none
  else (digits? 10 digits).map (·, Cursor.skip digits.length c)

/-- The version that a directive gives; only 1.1 and 1.2 can be read. -/
def version? (c : Cursor) : Option Cursor := do
  let (major, c) ← versionNumber? (c.dropWhile isBlank)
  if !c.sees 0 '.' then none
  else
    let (minor, c) ← versionNumber? c.next
    if major = 1 ∧ (minor = 1 ∨ minor = 2) then some c else none

def handle? (c : Cursor) : Option (String × Cursor) :=
  let name := c.next.rest.takeWhile isNameChar
  let after := Cursor.skip (name.length + 1) c
  if !c.sees 0 '!' then none
  else if after.sees 0 '!' then some ("!" ++ String.ofList name ++ "!", after.next)
  else if name.isEmpty then some ("!", after)
  else none

def tagDirective? (c : Cursor) : Option (Token × Cursor) := do
  let (handle, c) ← handle? (c.dropWhile isBlank)
  let start := c.dropWhile isBlank
  let (beginning, after) ← tagRun? true start
  if !c.blankAt 0 || after.offset = start.offset || !after.spaceAt 0 then none
  else some (.tagDirective handle beginning, after)

/-- What a directive says, from after its percent sign, and the place after that. -/
def directive? (c : Cursor) : Option (Token × Cursor) :=
  let name := c.rest.takeWhile isNameChar
  let after := Cursor.skip name.length c
  if !after.spaceAt 0 then none
  else if name = "YAML".toList then (version? after).map (.directive, ·)
  else if name = "TAG".toList then tagDirective? after
  else none

/-- A directive; nothing but a comment follows it on its line. -/
def directive (x : Lexer) : Option Lexer :=
  (x.closeBlocks (-1)).dropCandidate.bind fun x =>
    (directive? x.cursor.next).bind fun (t, c) =>
      let c := c.dropWhile isBlank
      let c := if c.sees 0 '#' then c.dropWhile fun y => !isBreak y else c
      if c.atEnd || c.breaksAt 0 then some { x.push t with cursor := c.nextLine.2, keyAllowed := false } else none

/-- Characters that begin no plain scalar, or only before one that is no blank. -/
def indicators : List Char :=
  ['-', '?', ':', ',', '[', ']', '\x7b', '\x7d', '#', '&', '*', '!', '|', '>', '\'', '"', '%', '@', '\x60']

/-- One token at the cursor; `fuel` exceeds the characters that are left. -/
def fetch (fuel : Nat) (x : Lexer) (first : Char) : Option Lexer :=
  let c := x.cursor
  if c.column = 0 ∧ first = '%' then x.directive
  else if c.atDocumentMark then x.documentMark (if first = '-' then .documentStart else .documentEnd)
  else if first = '[' then x.openFlow .openSequence
  else if first = '\x7b' then x.openFlow .openMapping
  else if first = ']' then x.closeFlow .closeSequence
  else if first = '\x7d' then x.closeFlow .closeMapping
  else if first = ',' then x.flowComma
  else if first = '-' ∧ c.spaceAt 1 then x.blockEntry
  else if first = '?' ∧ (0 < x.flow ∨ c.spaceAt 1) then x.markedKey
  else if first = ':' ∧ (0 < x.flow ∨ c.spaceAt 1) then x.keyValue
  else if first = '*' then x.named .alias
  else if first = '&' then x.named .anchor
  else if first = '!' then x.tagged
  else if first = '|' ∧ x.flow = 0 then x.blockScalar true fuel
  else if first = '>' ∧ x.flow = 0 then x.blockScalar false fuel
  else if first = '\'' then x.quotedScalar true fuel
  else if first = '"' then x.quotedScalar false fuel
  else if !(isBlank first || indicators.contains first) || (first == '-' && !c.blankAt 1) ||
      (x.flow == 0 && (first == '?' || first == ':') && !c.spaceAt 1) then x.plainScalar fuel
  else none

/-- All tokens to the end of the text. Every token takes a character, so fuel that exceeds the characters that are left
at the start does so at every token. -/
def run : Nat → Lexer → Option (List Token)
  | 0, _ => none
  | fuel + 1, x => do
    let x ← (toNext (fuel + 1) x).dropStale
    let x := x.closeBlocks x.cursor.column
    match x.cursor.head with
    | none => (x.closeBlocks (-1)).dropCandidate.map fun x => x.tokens.toList
    | some first => (x.fetch (fuel + 1) first).bind (run fuel)

end Lexer

def tokens? (s : String) : Option (List Token) :=
  let text := s.toList
  if text.all isAllowed then Lexer.run (2 * text.length + 2) (Lexer.start text) else none

end ClientGen.Yaml
