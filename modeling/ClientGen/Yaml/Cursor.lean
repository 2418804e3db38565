/-!
# Places in a YAML text

A cursor is a place in a text with the line and column it stands at. Characters are classed as the format classes
them: breaks end a line, blanks are the space and the tab.
-/

namespace ClientGen.Yaml

def isBreak (c : Char) : Bool :=
  c == '\r' || c == '\n' || c == '\x85' || c == '\u2028' || c == '\u2029'

def isBlank (c : Char) : Bool :=
  c == ' ' || c == '\t'

def isNameChar (c : Char) : Bool :=
  c.isAlphanum || c == '-' || c == '_'

def isAllowed (c : Char) : Bool :=
  let n := c.toNat
  n == 9 || n == 10 || n == 13 || (32 ≤ n && n ≤ 126) || n == 0x85 || (0xA0 ≤ n && n ≤ 0xD7FF) ||
    (0xE000 ≤ n && n ≤ 0xFFFD) || 0x10000 ≤ n

structure Cursor where
  rest : List Char
  line : Nat
  column : Nat
  offset : Nat

namespace Cursor

def start (text : List Char) : Cursor := ⟨text, 0, 0, 0⟩

/-- The character `n` places ahead. -/
def ahead (c : Cursor) (n : Nat) : Option Char := c.rest[n]?

def head (c : Cursor) : Option Char := c.rest.head?

def atEnd (c : Cursor) : Bool := c.rest.isEmpty

def sees (c : Cursor) (n : Nat) (x : Char) : Bool := c.ahead n == some x

def breaksAt (c : Cursor) (n : Nat) : Bool := (c.ahead n).any isBreak

def blankAt (c : Cursor) (n : Nat) : Bool := (c.ahead n).any isBlank

/-- There is a blank, a break or the end `n` places ahead. -/
def spaceAt (c : Cursor) (n : Nat) : Bool := (c.ahead n).all fun x => isBlank x || isBreak x

def next (c : Cursor) : Cursor :=
  match c.rest with
  | [] => c
  | x :: rest => { c with rest, column := c.column + 1, offset := c.offset + x.utf8Size }

def skip : Nat → Cursor → Cursor
  | 0, c => c
  | n + 1, c => skip n c.next

/-- Past a line break, with the break as it counts in a text. -/
def nextLine (c : Cursor) : List Char × Cursor :=
  match c.rest with
  | '\r' :: '\n' :: rest => (['\n'], ⟨rest, c.line + 1, 0, c.offset + 2⟩)
  | x :: rest =>
    (if x == '\u2028' || x == '\u2029' then [x] else ['\n'], ⟨rest, c.line + 1, 0, c.offset + x.utf8Size⟩)
  | [] => ([], c)

def dropWhile (p : Char → Bool) (c : Cursor) : Cursor :=
  skip (c.rest.takeWhile p).length c

def atDocumentMark (c : Cursor) : Bool :=
  c.column == 0 && c.spaceAt 3 &&
    ((c.sees 0 '-' && c.sees 1 '-' && c.sees 2 '-') || (c.sees 0 '.' && c.sees 1 '.' && c.sees 2 '.'))

end Cursor

end ClientGen.Yaml
