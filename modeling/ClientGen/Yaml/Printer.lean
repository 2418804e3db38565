import ClientGen.Json.Printer
import ClientGen.Yaml.Resolution

/-!
# Values as YAML

A value is written in block style: members one below the other, items behind hyphens that stand in the column of
their mapping. A text stays plain unless it would then say something else; it is quoted if it would, and written over
several lines if it has several.
-/

namespace ClientGen.Yaml

def isPrintable (c : Char) : Bool :=
  let n := c.toNat
  n == 10 || (32 ≤ n && n ≤ 126) || (0xA0 ≤ n && n ≤ 0xD7FF) || (0xE000 ≤ n && n ≤ 0xFFFD && n ≠ 0xFEFF) ||
    0x10000 ≤ n

/-- A text that would be read as something else, or as digits that only look like a number. -/
def isAmbiguous (s : String) : Bool :=
  meaning s ≠ .text || isPaddedNumber s.toList

def openers : List Char :=
  ['#', ',', '[', ']', '\x7b', '\x7d', '&', '*', '!', '|', '>', '\'', '"', '%', '@', '\x60']

def spaceFirst : List Char → Bool
  | [] => true
  | c :: _ => isBlank c || isBreak c

/-- An indicator stands where it would count as one; `afterSpace` says what stands before. -/
def hasIndicator (afterSpace : Bool) : List Char → Bool
  | [] => false
  | c :: rest =>
    (c == ':' && spaceFirst rest) || (c == '#' && afterSpace) || hasIndicator (isBlank c || isBreak c) rest

def beginsWithIndicator : List Char → Bool
  | '-' :: '-' :: '-' :: _ => true
  | '.' :: '.' :: '.' :: _ => true
  | c :: rest => openers.contains c || ((c == '?' || c == ':' || c == '-') && spaceFirst rest)
  | [] => false

/-- A space next to a break, in one of the two orders. -/
def hasPair (p q : Char → Bool) : List Char → Bool
  | c :: d :: rest => (p c && q d) || hasPair p q (d :: rest)
  | _ => false

def isSpace (c : Char) : Bool := c == ' '

/-- A text can be read back from its plain form. -/
def plainAllowed (s : List Char) : Bool :=
  !(s.any isBreak || s.any (fun c => !isPrintable c) || s.head? == some ' ' || s.getLast? == some ' ' ||
    beginsWithIndicator s || hasIndicator true s)

def singleAllowed (s : List Char) : Bool :=
  !(s.any (fun c => !isPrintable c) || hasPair isBreak isSpace s || hasPair isSpace isBreak s)

def literalAllowed (s : List Char) : Bool :=
  !(s.any (fun c => !isPrintable c) || hasPair isSpace isBreak s || s.getLast? == some ' ')

def hexPadded (width n : Nat) : List Char :=
  let digits := (Nat.toDigits 16 n).map Char.toUpper
  List.replicate (width - digits.length) '0' ++ digits

def escapedChar (c : Char) : List Char :=
  match c with
  | '\x00' => ['\\', '0']
  | '\x07' => ['\\', 'a']
  | '\x08' => ['\\', 'b']
  | '\t' => ['\\', 't']
  | '\n' => ['\\', 'n']
  | '\x0b' => ['\\', 'v']
  | '\x0c' => ['\\', 'f']
  | '\r' => ['\\', 'r']
  | '\x1b' => ['\\', 'e']
  | '"' => ['\\', '"']
  | '\\' => ['\\', '\\']
  | '\x85' => ['\\', 'N']
  | '\u2028' => ['\\', 'L']
  | '\u2029' => ['\\', 'P']
  | c =>
    if isPrintable c then [c]
    else if c.toNat ≤ 0xFF then ['\\', 'x'] ++ hexPadded 2 c.toNat
    else if c.toNat ≤ 0xFFFF then ['\\', 'u'] ++ hexPadded 4 c.toNat
    else ['\\', 'U'] ++ hexPadded 8 c.toNat

def doubleQuoted (s : List Char) : List Char :=
  '"' :: s.flatMap escapedChar ++ ['"']

def singleQuoted (s : List Char) : List Char :=
  '\'' :: s.flatMap (fun c => if c = '\'' then ['\'', '\''] else [c]) ++ ['\'']

/-- A text cut after each of its breaks; what follows the last one is a piece too. -/
def splitAfterBreaks : List Char → List (List Char)
  | [] => [[]]
  | c :: rest =>
    if isBreak c then [c] :: splitAfterBreaks rest
    else match splitAfterBreaks rest with
      | [] => [[c]]
      | piece :: pieces => (c :: piece) :: pieces

/-- Lines of output, each with the break at its end. The last piece of a text takes a line feed, unless it is empty and
a break stands before it. -/
def linesOfPieces : List (List Char) → List String
  | [] => []
  | [piece] => [String.ofList (piece ++ ['\n'])]
  | [piece, []] => [String.ofList piece]
  | piece :: pieces => String.ofList piece :: linesOfPieces pieces

/-- The header of a text over several lines. It says that the text begins with a space or a break, and how it ends. -/
def literalHeader (s : List Char) : String :=
  let depth := if s.head?.any (fun c => c == ' ' || isBreak c) then "2" else ""
  let ending :=
    if !s.getLast?.any isBreak then "-"
    else if s.dropLast.isEmpty || s.dropLast.getLast?.any isBreak then "+"
    else ""
  "|" ++ depth ++ ending ++ "\n"

/-- A text without line feeds, as it is if that says the same, else in quotes. -/
def flowText (text : String) : List Char :=
  let s := text.toList
  if !isAmbiguous text && plainAllowed s then s else if singleAllowed s then singleQuoted s else doubleQuoted s

/-- The lines of a text, those after the first without their indentation. -/
def textLines (text : String) : List String :=
  let s := text.toList
  if s.contains '\n' then
    if literalAllowed s then literalHeader s :: linesOfPieces (splitAfterBreaks s) else linesOfPieces [doubleQuoted s]
  else linesOfPieces (splitAfterBreaks (flowText text))

def nameText (name : String) : String :=
  String.ofList (if name.toList.any isBreak then doubleQuoted name.toList else flowText name)

def indented (lines : List String) : List String :=
  lines.map fun line => if line.toList.head?.any isBreak then line else "  " ++ line

def asItem : List String → List String
  | [] => []
  | first :: rest => ("- " ++ first) :: indented rest

def afterName (name : String) : List String → List String
  | [] => [name ++ ":\n"]
  | first :: rest => (name ++ ": " ++ first) :: indented rest

mutual

def linesOf : Json → List String
  | .string text => textLines text
  | .array [] => ["[]\n"]
  | .array items => itemLines items
  | .object [] => ["\x7b\x7d\n"]
  | .object members => memberLines members
  | j => [j.scalarText ++ "\n"]

def itemLines : List Json → List String
  | [] => []
  | j :: rest => asItem (linesOf j) ++ itemLines rest

def memberLines : List (String × Json) → List String
  | [] => []
  | (name, j) :: rest =>
    let name := nameText name
    let value := linesOf j
    (match j with
      | .array (_ :: _) => (name ++ ":\n") :: value
      | .object (_ :: _) => (name ++ ":\n") :: indented value
      | _ => afterName name value) ++ memberLines rest

end

def render (j : Json) : String :=
  String.ofList ((linesOf j).flatMap String.toList)

end ClientGen.Yaml
