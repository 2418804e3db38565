/-!
# Texts

A blank is a character with the property `White_Space`. A text is blank when all its characters are; `trim` takes
the blanks off both ends.

`lines` cuts a text at its line ends (`\n` or `\r\n`); a line end at the end of the text opens no further line.
`joined` puts a separator between texts.

A text may occur in another, be replaced wherever it occurs from left to right, or be taken off an end.

In a component of a URL letters, digits and `-`, `.`, `_`, `~` stand for themselves, every other character for the
bytes of its UTF-8 form, each written `%XX`.
-/

/-! ## Blanks -/

namespace ClientGen.Text

/-- A character with the property `White_Space`. -/
def isBlank (c : Char) : Bool :=
  let n := c.toNat
  (9 ≤ n && n ≤ 13) || n == 32 || n == 0x85 || n == 0xA0 || n == 0x1680 || (0x2000 ≤ n && n ≤ 0x200A) ||
    n == 0x2028 || n == 0x2029 || n == 0x202F || n == 0x205F || n == 0x3000

def trimStart (s : List Char) : List Char :=
  s.dropWhile isBlank

def trimEnd (s : List Char) : List Char :=
  (s.reverse.dropWhile isBlank).reverse

def trim (s : List Char) : List Char :=
  trimEnd (trimStart s)

def trimmed (s : String) : String :=
  String.ofList (trim s.toList)

/-- A text of blanks only, the empty one included. -/
def isBlankText (s : String) : Bool :=
  s.toList.all isBlank

/-! ## Lines and joined texts -/

def lines : List Char → List (List Char)
  | [] => []
  | '\n' :: rest => [] :: lines rest
  | '\r' :: '\n' :: rest => [] :: lines rest
  | c :: rest => match lines rest with
    | [] => [[c]]
    | line :: others => (c :: line) :: others

def linesOf (s : String) : List String :=
  (lines s.toList).map String.ofList

/-- The texts in order with a separator between any two neighbours. -/
def joined (separator : String) : List String → String
  | [] => ""
  | [piece] => piece
  | piece :: next :: rest => piece ++ separator ++ joined separator (next :: rest)

def concat : List String → String
  | [] => ""
  | piece :: rest => piece ++ concat rest

/-- The texts in order, each as a line. -/
def unlines (lines : List String) : String :=
  concat (lines.map (· ++ "\n"))

/-! ## Search within a text -/

def after? : List Char → List Char → Option (List Char)
  | [], s => some s
  | _ :: _, [] => none
  | p :: pattern, c :: s => if p = c then after? pattern s else none

def holds (piece : List Char) : List Char → Bool
  | [] => piece.isEmpty
  | c :: s => (after? piece (c :: s)).isSome || holds piece s

def contains (s piece : String) : Bool :=
  holds piece.toList s.toList

/-- Copies a text, with an image in place of every occurrence of a piece that begins no earlier than `skip` characters
from here; the characters of an occurrence are skipped one by one. -/
def replaceAfter (piece image : List Char) : Nat → List Char → List Char
  | _, [] => []
  | skip + 1, _ :: s => replaceAfter piece image skip s
  | 0, c :: s =>
    if (after? piece (c :: s)).isSome then image ++ replaceAfter piece image (piece.length - 1) s
    else c :: replaceAfter piece image 0 s

/-- A non-empty piece replaced wherever it occurs, from left to right, without overlap. -/
def replace (piece image : List Char) (s : List Char) : List Char :=
  replaceAfter piece image 0 s

def replaced (s piece image : String) : String :=
  String.ofList (replace piece.toList image.toList s.toList)

/-- The pieces of a text between the characters that a test picks out; one more than there are such characters. -/
def cut (isCut : Char → Bool) : List Char → List (List Char)
  | [] => [[]]
  | c :: s =>
    if isCut c then [] :: cut isCut s
    else match cut isCut s with
      | [] => [[c]]
      | piece :: pieces => (c :: piece) :: pieces

def before? (ending s : String) : Option String :=
  (after? ending.toList.reverse s.toList.reverse).map fun rest => String.ofList rest.reverse

def startsWith (s piece : String) : Bool :=
  (after? piece.toList s.toList).isSome

end ClientGen.Text

/-! ## Percent encoding -/

namespace ClientGen.Text.Percent

def isUnreserved (c : Char) : Bool :=
  c.isAlphanum || c == '-' || c == '.' || c == '_' || c == '~'

def hexDigit (n : Nat) : Char :=
  if n < 10 then Char.ofNat (48 + n) else Char.ofNat (55 + n)

def encodeByte (b : UInt8) : List Char :=
  ['%', hexDigit (b.toNat / 16), hexDigit (b.toNat % 16)]

def encodeChar (c : Char) : List Char :=
  if isUnreserved c then [c] else (String.utf8EncodeChar c).flatMap encodeByte

def encode (s : String) : String :=
  String.ofList (s.toList.flatMap encodeChar)

end ClientGen.Text.Percent
