import ClientGen.Yaml.Cursor

/-!
# Plain and quoted scalars

Within a plain or quoted scalar, blanks around a line break are dropped and the break becomes a space; of several
breaks the first is dropped and the others stay.
-/

namespace ClientGen.Yaml

/-- A scalar that is being read: its text so far and the blanks and breaks that came after it, last one first. -/
structure Folding where
  text : List Char
  blanks : List Char
  firstBreak : List Char
  moreBreaks : List Char
  broken : Bool

namespace Folding

def empty : Folding := ⟨[], [], [], [], false⟩

def join (f : Folding) : Folding :=
  let gap :=
    if f.broken then
      if f.firstBreak = ['\n'] then if f.moreBreaks.isEmpty then [' '] else f.moreBreaks
      else f.moreBreaks ++ f.firstBreak
    else f.blanks
  { empty with text := gap ++ f.text }

def add (f : Folding) (c : Char) : Folding := { f with text := c :: f.text }

def blank (f : Folding) (c : Char) : Folding := if f.broken then f else { f with blanks := c :: f.blanks }

def lineBreak (f : Folding) (b : List Char) : Folding :=
  if f.broken then { f with moreBreaks := b.reverse ++ f.moreBreaks }
  else { f with blanks := [], firstBreak := b, broken := true }

end Folding

/-- The characters of a plain scalar up to a blank, a break or an indicator that ends it. -/
def plainRun (inFlow : Bool) : Nat → Cursor → Folding → Option (Cursor × Folding)
  | 0, _, _ => none
  | fuel + 1, c, f =>
    match c.head with
    | none => some (c, f)
    | some x =>
      if isBlank x || isBreak x then some (c, f)
      else if inFlow && x == ':' && (c.ahead 1).any (fun y => [',', '?', '[', ']', '\x7b', '\x7d'].contains y) then
        none
      else if (x == ':' && c.spaceAt 1) || (inFlow && [',', '[', ']', '\x7b', '\x7d'].contains x) then some (c, f)
      else plainRun inFlow fuel c.next (f.join.add x)

/-- The blanks and breaks inside a plain scalar; a tab may not stand in the indentation. -/
def plainGap (indent : Int) : Nat → Cursor → Folding → Option (Cursor × Folding)
  | 0, _, _ => none
  | fuel + 1, c, f =>
    match c.head with
    | none => some (c, f)
    | some x =>
      if isBlank x then
        if f.broken && (c.column : Int) < indent && x == '\t' then none else plainGap indent fuel c.next (f.blank x)
      else if isBreak x then
        let (b, c) := c.nextLine
        plainGap indent fuel c (f.lineBreak b)
      else some (c, f)

/-- A plain scalar; in block style its lines after the first stand at least `indent` deep. -/
def plainFrom (inFlow : Bool) (indent : Int) : Nat → Cursor → Folding → Option (Cursor × Folding)
  | 0, _, _ => none
  | fuel + 1, c, f =>
    if c.atDocumentMark || c.sees 0 '#' then some (c, f)
    else do
      let (c, f) ← plainRun inFlow (fuel + 1) c f
      if !(c.blankAt 0 || c.breaksAt 0) then some (c, f)
      else
        let (c, f) ← plainGap indent (fuel + 1) c f
        if !inFlow && (c.column : Int) < indent then some (c, f) else plainFrom inFlow indent fuel c f

def letterEscape? : Char → Option Char
  | '0' => some '\x00'
  | 'a' => some '\x07'
  | 'b' => some '\x08'
  | 't' => some '\t'
  | '\t' => some '\t'
  | 'n' => some '\n'
  | 'v' => some '\x0b'
  | 'f' => some '\x0c'
  | 'r' => some '\r'
  | 'e' => some '\x1b'
  | ' ' => some ' '
  | '"' => some '"'
  | '/' => some '/'
  | '\\' => some '\\'
  | 'N' => some '\x85'
  | '_' => some '\xa0'
  | 'L' => some '\u2028'
  | 'P' => some '\u2029'
  | _ => none

def escapeLength? : Char → Option Nat
  | 'x' => some 2
  | 'u' => some 4
  | 'U' => some 8
  | _ => none

def hexValue? (c : Char) : Option Nat :=
  if '0' ≤ c ∧ c ≤ '9' then some (c.toNat - 48)
  else if 'a' ≤ c ∧ c ≤ 'f' then some (c.toNat - 87)
  else if 'A' ≤ c ∧ c ≤ 'F' then some (c.toNat - 55)
  else none

def digitIn? (base : Nat) (c : Char) : Option Nat :=
  (hexValue? c).filter (· < base)

def digits? (base : Nat) (s : List Char) : Option Nat :=
  if s.isEmpty then none else s.foldlM (fun n c => (digitIn? base c).map (base * n + ·)) 0

def hexNumber? (digits : List Char) : Option Nat :=
  digits.foldlM (fun n c => (hexValue? c).map (16 * n + ·)) 0

/-- The character that an escape at a backslash stands for, and the place after it. -/
def escapeAt? (c : Cursor) : Option (Char × Cursor) := do
  let letter ← c.ahead 1
  match letterEscape? letter with
  | some x => some (x, Cursor.skip 2 c)
  | none =>
    let length ← escapeLength? letter
    let digits := (c.rest.drop 2).take length
    if digits.length < length then none
    else
      let n ← hexNumber? digits
      if (0xD800 ≤ n && n ≤ 0xDFFF) || 0x10FFFF < n then none
      else some (Char.ofNat n, Cursor.skip (2 + length) c)

/-- The characters of a quoted scalar up to a blank, a break, the end or the closing quote. -/
def quotedRun (single : Bool) : Nat → Cursor → Folding → Option (Cursor × Folding)
  | 0, _, _ => none
  | fuel + 1, c, f =>
    match c.head with
    | none => some (c, f)
    | some x =>
      if isBlank x || isBreak x then some (c, f)
      else if single && x == '\'' && c.sees 1 '\'' then quotedRun single fuel (Cursor.skip 2 c) (f.add '\'')
      else if x == (if single then '\'' else '"') then some (c, f)
      else if !single && x == '\\' && c.breaksAt 1 then some (c.next.nextLine.2, { f with broken := true })
      else if !single && x == '\\' then
        (escapeAt? c).bind fun (y, c) => quotedRun single fuel c (f.add y)
      else quotedRun single fuel c.next (f.add x)

def quotedGap : Nat → Cursor → Folding → Option (Cursor × Folding)
  | 0, _, _ => none
  | fuel + 1, c, f =>
    match c.head with
    | none => some (c, f)
    | some x =>
      if isBlank x then quotedGap fuel c.next (f.blank x)
      else if isBreak x then
        let (b, c) := c.nextLine
        quotedGap fuel c (f.lineBreak b)
      else some (c, f)

def quotedFrom (single : Bool) : Nat → Cursor → Folding → Option (Cursor × Folding)
  | 0, _, _ => none
  | fuel + 1, c, f =>
    if c.atDocumentMark || c.atEnd then none
    else do
      let (c, f) ← quotedRun single (fuel + 1) c f
      if c.sees 0 (if single then '\'' else '"') then some (c.next, f.join)
      else
        let (c, f) ← quotedGap (fuel + 1) c f
        quotedFrom single fuel c f.join

end ClientGen.Yaml
