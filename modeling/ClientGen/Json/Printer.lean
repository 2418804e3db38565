import ClientGen.Json.Basic
import ClientGen.Text.Basic

/-!
# JSON as text

`compact` writes a value without blanks; `pretty` puts every item and member on a line of its own, two spaces deeper
than what holds it.
-/

namespace ClientGen.Json

def quotedChar (c : Char) : List Char :=
  match c with
  | '"' => ['\\', '"']
  | '\\' => ['\\', '\\']
  | '\x08' => ['\\', 'b']
  | '\x0c' => ['\\', 'f']
  | '\n' => ['\\', 'n']
  | '\r' => ['\\', 'r']
  | '\t' => ['\\', 't']
  | c =>
    if c.toNat < 32 then
      ['\\', 'u', '0', '0', Nat.digitChar (c.toNat / 16), Nat.digitChar (c.toNat % 16)]
    else [c]

def quoted (s : String) : String :=
  String.ofList ('"' :: (s.toList.flatMap quotedChar ++ ['"']))

/-- Texts in quotes, in brackets and with a space after each comma. -/
def quotedList (items : List String) : String :=
  "[" ++ Text.joined ", " (items.map quoted) ++ "]"

def scalarText : Json → String
  | .bool true => "true"
  | .bool false => "false"
  | .int n => toString n
  | .double x => x.text
  | .string s => quoted s
  | _ => "null"

mutual

def compact : Json → String
  | .array [] => "[]"
  | .array (j :: items) => "[" ++ compact j ++ compactItems items ++ "]"
  | .object [] => "\x7b\x7d"
  | .object ((name, j) :: members) => "\x7b" ++ quoted name ++ ":" ++ compact j ++ compactMembers members ++ "\x7d"
  | j => scalarText j

def compactItems : List Json → String
  | [] => ""
  | j :: items => "," ++ compact j ++ compactItems items

def compactMembers : List (String × Json) → String
  | [] => ""
  | (name, j) :: members => "," ++ quoted name ++ ":" ++ compact j ++ compactMembers members

end

def newLine (depth : Nat) : String :=
  String.ofList ('\n' :: List.replicate (2 * depth) ' ')

mutual

def prettyAt (depth : Nat) : Json → String
  | .array [] => "[]"
  | .array (j :: items) =>
    "[" ++ newLine (depth + 1) ++ prettyAt (depth + 1) j ++ prettyItems depth items ++ newLine depth ++ "]"
  | .object [] => "\x7b\x7d"
  | .object ((name, j) :: members) =>
    "\x7b" ++ newLine (depth + 1) ++ quoted name ++ ": " ++ prettyAt (depth + 1) j ++ prettyMembers depth members ++
      newLine depth ++ "\x7d"
  | j => scalarText j

def prettyItems (depth : Nat) : List Json → String
  | [] => ""
  | j :: items => "," ++ newLine (depth + 1) ++ prettyAt (depth + 1) j ++ prettyItems depth items

def prettyMembers (depth : Nat) : List (String × Json) → String
  | [] => ""
  | (name, j) :: members =>
    "," ++ newLine (depth + 1) ++ quoted name ++ ": " ++ prettyAt (depth + 1) j ++ prettyMembers depth members

end

def pretty (j : Json) : String :=
  prettyAt 0 j

end ClientGen.Json
