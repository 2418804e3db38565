import ClientGen.Text.Alphanumeric
import ClientGen.Text.Basic

/-!
# Comparing source texts

The normal form of a source text has no comments, and single spaces where there were blanks. A line comment does not
begin right after a colon, where `//` belongs to a URL. Nothing is known of quoted texts.

Declarations that are exported and statements that import are found in the normal form of a source text by their
first words. What is found once is not searched again.

Two source texts count as equivalent when they export the same names equally often in sum and import the same things.
-/

/-! ## Source texts in normal form -/

namespace ClientGen.Comparison

/-- How many characters there are up to the end of a block comment, the end included. -/
def commentLength? : List Char → Option Nat
  | '*' :: '/' :: _ => some 2
  | _ :: rest => (commentLength? rest).map (· + 1)
  | [] => none

/-- A text with a space for every block comment that begins no earlier than `skip` characters from here. A comment
that does not end is none. -/
def withoutBlocks : Nat → List Char → List Char
  | _, [] => []
  | skip + 1, _ :: rest => withoutBlocks skip rest
  | 0, '/' :: '*' :: rest => match commentLength? rest with
    | some n => ' ' :: withoutBlocks (n + 1) ('*' :: rest)
    | none => '/' :: withoutBlocks 0 ('*' :: rest)
  | 0, c :: rest => c :: withoutBlocks 0 rest

inductive LinePlace where
  | code
  | afterColon
  | comment
  deriving DecidableEq, Repr

/-- A text without line comments; the line ends stay. -/
def withoutLineComments : LinePlace → List Char → List Char
  | _, [] => []
  | .comment, c :: rest =>
    if c = '\n' then c :: withoutLineComments .code rest else withoutLineComments .comment rest
  | .code, '/' :: '/' :: rest => withoutLineComments .comment rest
  | _, c :: rest => c :: withoutLineComments (if c = ':' then .afterColon else .code) rest

def pieces (s : List Char) : List (List Char) :=
  (Text.cut Text.isBlank s).filter fun piece => !piece.isEmpty

def collapse (s : List Char) : List Char :=
  List.intercalate [' '] (pieces s)

def normalize (source : String) : String :=
  String.ofList (collapse (withoutLineComments .code (withoutBlocks 0 source.toList)))

/-! ## Exports and imports of a source text -/

/-- Texts in order of code points, each once. -/
def insertOrdered (s : String) : List String → List String
  | [] => [s]
  | t :: rest => if s = t then t :: rest else if s < t then s :: t :: rest else t :: insertOrdered s rest

def ordered (texts : List String) : List String :=
  texts.foldl (fun sorted s => insertOrdered s sorted) []

def declarationWords : List String := ["class", "interface", "type", "function", "const", "let", "var"]

def afterWord? (word : String) (s : List Char) : Option (List Char) :=
  Text.after? (word.toList ++ [' ']) s

def name? (s : List Char) : Option (List Char) :=
  let name := s.takeWhile Text.isWordChar
  if name.isEmpty then none else some name

def exportWords? (s : List Char) : Option (List String × List Char) := do
  let s ← afterWord? "export" s
  let (async, s) := match afterWord? "async" s with
    | some s => (["async"], s)
    | none => ([], s)
  declarationWords.findSome? fun word => (afterWord? word s).map ("export" :: async ++ [word], ·)

/-- The exported declaration in front of a text: its length and its name. -/
def export? (s : List Char) : Option (Nat × List Char) := do
  let (words, rest) ← exportWords? s
  let name ← name? rest
  some (words.foldr (fun word n => word.length + 1 + n) name.length, name)

def isQuote (c : Char) : Bool := c == '"' || c == '\''

/-- An ending such as `from "./a.js"` in front of a text, which closes an import; the path is not empty. -/
def fromEnding? (s : List Char) : Option (List Char) := do
  let rest ← Text.after? "from".toList s
  let (gap, rest) := match Text.after? [' '] rest with
    | some rest => ([' '], rest)
    | none => ([], rest)
  match rest with
  | [] => none
  | opening :: path =>
    let inside := path.takeWhile fun c => !isQuote c
    let closing ← path[inside.length]?
    if isQuote opening && !inside.isEmpty then some ("from".toList ++ gap ++ opening :: inside ++ [closing]) else none

/-- The rest of an import from after its first word, through its ending. Neither a quote nor a semicolon stands before
the ending. -/
def imported? : List Char → Option (List Char)
  | [] => none
  | c :: rest => match fromEnding? (c :: rest) with
    | some ending => some ending
    | none => if c = ';' ∨ isQuote c then none else (imported? rest).map (c :: ·)

def import? (s : List Char) : Option (Nat × List Char) := do
  let rest ← afterWord? "import" s
  let statement := "import ".toList ++ (← imported? rest)
  some (statement.length, statement)

/-- Everything that is found in a text where a word begins, from left to right and without overlap. The search goes on
after `skip` characters. -/
def findAll (find? : List Char → Option (Nat × List Char)) : Nat → Option Char → List Char → List (List Char)
  | _, _, [] => []
  | skip + 1, _, c :: rest => findAll find? skip (some c) rest
  | 0, previous, c :: rest =>
    match if previous.any Text.isWordChar then none else find? (c :: rest) with
    | some (length, found) => found :: findAll find? (length - 1) (some c) rest
    | none => findAll find? 0 (some c) rest

/-- The names that a source text exports, in order and as often as they are exported. -/
def exportedNames (source : String) : List String :=
  (findAll export? 0 none (normalize source).toList).map String.ofList

/-- The imports of a source text, in order of code points and each once. -/
def importStatements (source : String) : List String :=
  ordered ((findAll import? 0 none (normalize source).toList).map String.ofList)

/-! ## Differences of source texts -/

def without (texts others : List String) : List String :=
  texts.filter fun s => !others.contains s

def missingExports (side : String) (names : List String) : List String :=
  if names.isEmpty then [] else ["Missing exports in " ++ side ++ " output: " ++ Text.joined ", " names]

/-- A line when two texts that export the same names do not do so equally often. -/
def exportCounts (primary baseline : List String) : List String :=
  if ordered primary = ordered baseline ∧ primary.length ≠ baseline.length then
    ["Export count differs: declarative " ++ toString primary.length ++ ", baseline " ++ toString baseline.length]
  else []

def exportDifferences (primary baseline : List String) : List String :=
  missingExports "baseline" (without (ordered primary) (ordered baseline)) ++
    missingExports "declarative" (without (ordered baseline) (ordered primary)) ++ exportCounts primary baseline

def importDifferences (primary baseline : List String) : List String :=
  (without primary baseline).map ("Missing import in baseline output: " ++ ·) ++
    (without baseline primary).map ("Missing import in declarative output: " ++ ·)

/-- The differences of two source texts; none if their normal forms are the same. -/
def differences (primary baseline : String) : List String :=
  if normalize primary = normalize baseline then []
  else
    exportDifferences (exportedNames primary) (exportedNames baseline) ++
      importDifferences (importStatements primary) (importStatements baseline)

end ClientGen.Comparison
