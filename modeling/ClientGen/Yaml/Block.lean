import ClientGen.Yaml.Cursor

/-!
# Block scalars

A literal scalar keeps the breaks between its lines; a folded one joins lines that begin with no blank. What is left
of the breaks at its end is said by its header: one (`clip`), none (`strip`) or all (`keep`).
-/

namespace ClientGen.Yaml

inductive Chomping where
  | clip
  | strip
  | keep
  deriving DecidableEq

/-- The header of a block scalar: how it ends and how much deeper it stands, if that is given. -/
def blockHeader? (c : Cursor) : Option (Chomping × Option Nat × Cursor) :=
  let chomping? : Cursor → Option Chomping := fun c =>
    if c.sees 0 '+' then some .keep else if c.sees 0 '-' then some .strip else none
  let digit? : Cursor → Option Nat := fun c => (c.head.filter Char.isDigit).map fun x => x.toNat - 48
  match chomping? c with
  | some chomping =>
    match digit? c.next with
    | some 0 => none
    | some n => some (chomping, some n, Cursor.skip 2 c)
    | none => some (chomping, none, c.next)
  | none =>
    match digit? c with
    | some 0 => none
    | some n =>
      match chomping? c.next with
      | some chomping => some (chomping, some n, Cursor.skip 2 c)
      | none => some (.clip, some n, c.next)
    | none => some (.clip, none, c)

/-- The empty lines before a line with content; `indent` is zero while it is not known, and `deepest` is the deepest
column seen. Yields the breaks, last one first. -/
def blockBreaks (indent : Nat) : Nat → Cursor → List Char → Nat → Option (Cursor × List Char × Nat)
  | 0, _, _, _ => none
  | fuel + 1, c, breaks, deepest =>
    let spaces := (c.rest.takeWhile (· == ' ')).length
    let c := Cursor.skip (if indent = 0 then spaces else min spaces (indent - c.column)) c
    let deepest := max deepest c.column
    if (indent = 0 || c.column < indent) && c.sees 0 '\t' then none
    else if c.breaksAt 0 then
      let (b, c) := c.nextLine
      blockBreaks indent fuel c (b.reverse ++ breaks) deepest
    else some (c, breaks, deepest)

/-- A block scalar that is being read: the text, the break after its last line and the empty lines after that, last
character first; `blankLine` says that its last line began with a blank. -/
structure Block where
  text : List Char
  lastBreak : List Char
  emptyLines : List Char
  blankLine : Bool

def blockLines (literal : Bool) (indent : Nat) : Nat → Cursor → Block → Option (Cursor × Block)
  | 0, _, _ => none
  | fuel + 1, c, b =>
    if c.column ≠ indent || c.atEnd then some (c, b)
    else
      let blankNow := c.blankAt 0
      let gap :=
        if !literal && b.lastBreak == ['\n'] && !b.blankLine && !blankNow then
          if b.emptyLines.isEmpty then [' '] else b.emptyLines
        else b.emptyLines ++ b.lastBreak
      let content := c.rest.takeWhile fun x => !isBreak x
      let (lastBreak, c) := (Cursor.skip content.length c).nextLine
      (blockBreaks indent (fuel + 1) c [] 0).bind fun (c, emptyLines, _) =>
        blockLines literal indent fuel c ⟨content.reverse ++ gap ++ b.text, lastBreak, emptyLines, blankNow⟩

/-- A block scalar, from after its indicator; `parent` is the column of what holds it, or -1. -/
def blockScalar? (literal : Bool) (parent : Int) (fuel : Nat) (c : Cursor) : Option (String × Cursor) := do
  let (chomping, increment, c) ← blockHeader? c
  let c := c.dropWhile isBlank
  let c := if c.sees 0 '#' then c.dropWhile fun x => !isBreak x else c
  if !(c.atEnd || c.breaksAt 0) then none
  else
    let c := c.nextLine.2
    let given := match increment with
      | some n => if 0 ≤ parent then parent.toNat + n else n
      | none => 0
    let (c, emptyLines, deepest) ← blockBreaks given fuel c [] 0
    let indent := if given = 0 then max (max deepest (parent + 1).toNat) 1 else given
    let (c, b) ← blockLines literal indent fuel c ⟨[], [], emptyLines, false⟩
    let tail := match chomping with
      | .strip => []
      | .clip => b.lastBreak
      | .keep => b.emptyLines ++ b.lastBreak
    some (String.ofList (tail ++ b.text).reverse, c)

end ClientGen.Yaml
