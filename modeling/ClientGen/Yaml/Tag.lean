import ClientGen.Yaml.Flow

/-!
# YAML tags

A tag is a row of bytes, written in ASCII characters and `%XX` sequences. The sequences have to spell characters by
their first bytes, but what they spell need not be a text. A tag ends before a zero byte.
-/

namespace ClientGen.Yaml

abbrev Tag := List UInt8

namespace Tag

def ofText (s : String) : Tag := s.toUTF8.data.toList

def mark : UInt8 := 33

def bare : Tag := [mark]

def core (name : String) : Tag := ofText ("tag:yaml.org,2002:" ++ name)

/-- What a tag of the document's own says after its exclamation mark; one that is nothing else says that. -/
def local? : Tag → Option String
  | [] => none
  | b :: name =>
    if b ≠ mark then none else if name.isEmpty then some "!" else String.fromUTF8? ⟨name.toArray⟩

end Tag

def isTagChar (verbatim : Bool) (c : Char) : Bool :=
  isNameChar c || [';', '/', '?', ':', '@', '&', '=', '+', '$', '.', '%', '!', '~', '*', '\'', '(', ')'].contains c ||
    (verbatim && [',', '[', ']'].contains c)

def octet? : List Char → Option (Nat × List Char)
  | '%' :: a :: b :: rest => (hexNumber? [a, b]).map (·, rest)
  | _ => none

def following? (first : Nat) : Option Nat :=
  if first < 0x80 then some 0
  else if first < 0xC0 then none
  else if first < 0xE0 then some 1
  else if first < 0xF0 then some 2
  else if first < 0xF8 then some 3
  else none

/-- So many bytes that may not be the first of a character. -/
def laterOctets? : Nat → List Char → Option (Tag × List Char)
  | 0, s => some ([], s)
  | n + 1, s => do
    let (byte, rest) ← octet? s
    if byte < 0x80 || 0xC0 ≤ byte then none
    else
      let (bytes, rest) ← laterOctets? n rest
      some (byte.toUInt8 :: bytes, rest)

/-- The bytes of the character that `%XX` sequences spell in front of a text. -/
def escapedBytes? (s : List Char) : Option (Tag × List Char) := do
  let (first, rest) ← octet? s
  let (bytes, rest) ← laterOctets? (← following? first) rest
  some (first.toUInt8 :: bytes, rest)

def tagBytes? : Nat → List Char → Option Tag
  | 0, _ => some []
  | fuel + 1, s =>
    match s with
    | [] => some []
    | '%' :: _ => do
      let (bytes, rest) ← escapedBytes? s
      some (bytes ++ (← tagBytes? fuel rest))
    | c :: rest => (tagBytes? fuel rest).map (c.toNat.toUInt8 :: ·)

def tagRun? (verbatim : Bool) (c : Cursor) : Option (Tag × Cursor) :=
  let run := c.rest.takeWhile (isTagChar verbatim)
  (tagBytes? run.length run).map fun bytes => (bytes.takeWhile (· ≠ 0), Cursor.skip run.length c)

end ClientGen.Yaml
