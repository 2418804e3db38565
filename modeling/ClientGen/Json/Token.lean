import ClientGen.Json.Basic

/-!
# JSON tokens

A text is cut into marks, texts in quotes and scalars by a machine that takes one character at a time. A text in
quotes with half of a surrogate pair in it has no value, and no more has a number beyond the doubles.
-/

namespace ClientGen.Json

inductive Token where
  | openArray
  | closeArray
  | openObject
  | closeObject
  | comma
  | colon
  | text (value : Option String)
  | scalar (value : Json)

def hexValue? (c : Char) : Option Nat :=
  if '0' ≤ c ∧ c ≤ '9' then some (c.toNat - 48)
  else if 'a' ≤ c ∧ c ≤ 'f' then some (c.toNat - 87)
  else if 'A' ≤ c ∧ c ≤ 'F' then some (c.toNat - 55)
  else none

def simpleEscape? : Char → Option Char
  | '"' => some '"'
  | '\\' => some '\\'
  | '/' => some '/'
  | 'b' => some '\x08'
  | 'f' => some '\x0c'
  | 'n' => some '\n'
  | 'r' => some '\r'
  | 't' => some '\t'
  | _ => none

def isHighSurrogate (n : Nat) : Bool := 0xD800 ≤ n && n ≤ 0xDBFF

def isLowSurrogate (n : Nat) : Bool := 0xDC00 ≤ n && n ≤ 0xDFFF

/-- The text that a list of UTF-16 units and plain characters stands for. -/
def textOfUnits : List (Nat ⊕ Char) → Option (List Char)
  | [] => some []
  | .inr c :: rest => (textOfUnits rest).map (c :: ·)
  | [.inl n] => if isHighSurrogate n || isLowSurrogate n then none else some [Char.ofNat n]
  | .inl n :: .inl m :: rest =>
    if isHighSurrogate n && isLowSurrogate m then
      (textOfUnits rest).map (Char.ofNat (0x10000 + (n - 0xD800) * 0x400 + (m - 0xDC00)) :: ·)
    else if isHighSurrogate n || isLowSurrogate n then none
    else (textOfUnits (.inl m :: rest)).map (Char.ofNat n :: ·)
  | .inl n :: .inr c :: rest =>
    if isHighSurrogate n || isLowSurrogate n then none
    else (textOfUnits rest).map (Char.ofNat n :: c :: ·)

def digitsOf (s : List Char) : List Char × List Char :=
  (s.takeWhile Char.isDigit, s.dropWhile Char.isDigit)

def natOfDigits (s : List Char) : Nat :=
  s.foldl (fun n c => 10 * n + (c.toNat - 48)) 0

/-- The leading digits of a number as long as they stay below `2 ^ 64`, and how many were left over. -/
def significandOf (n : Nat) : List Char → Nat × Nat
  | [] => (n, 0)
  | c :: rest =>
    let next := 10 * n + (c.toNat - 48)
    if next < Nat.pow 2 64 then significandOf next rest else (n, rest.length + 1)

/-- The double that a sign, whole digits, digits of the fraction and an exponent spell. -/
def doubleOf (negative : Bool) (whole fraction : List Char) (exponent : Int) : Json :=
  let (digits, dropped) := significandOf 0 (whole ++ fraction)
  let scale := if dropped ≤ fraction.length then exponent - (fraction.length - dropped : Nat)
    else exponent + (dropped - fraction.length : Nat)
  match Double.ofDecimal? negative digits scale with
  | some x => .double x
  | none => .unreadable

/-- The integer that a sign and digits spell, or the double beyond `-2 ^ 63` and `2 ^ 64`. -/
def integerOf (negative : Bool) (whole : List Char) : Json :=
  let n := natOfDigits whole
  if negative then
    if 0 < n ∧ n ≤ Nat.pow 2 63 then .int (-n) else doubleOf true whole [] 0
  else if n < Nat.pow 2 64 then .int n else doubleOf false whole [] 0

/-- The exponent of a number: `e`, a sign if any, digits. -/
def exponentOf? : List Char → Option Int
  | [] => none
  | e :: rest =>
    if e = 'e' ∨ e = 'E' then
      let (negative, digits) := match rest with
        | '-' :: ds => (true, ds)
        | '+' :: ds => (false, ds)
        | ds => (false, ds)
      if digits.isEmpty || !digits.all Char.isDigit then none
      else some (if negative then -(natOfDigits digits : Int) else natOfDigits digits)
    else none

/-- A number: whole digits without a leading zero, a fraction if any, an exponent if any. -/
def numberOf? (s : List Char) : Option Json :=
  let (negative, s) := match s with
    | '-' :: rest => (true, rest)
    | s => (false, s)
  let (whole, rest) := digitsOf s
  if whole.isEmpty || (whole.head? == some '0' && 1 < whole.length) then none
  else match rest with
    | [] => some (integerOf negative whole)
    | '.' :: rest =>
      let (fraction, rest) := digitsOf rest
      if fraction.isEmpty then none
      else if rest.isEmpty then some (doubleOf negative whole fraction 0)
      else (exponentOf? rest).map (doubleOf negative whole fraction)
    | rest => (exponentOf? rest).map (doubleOf negative whole [])

/-- A run of characters outside quotes that are neither marks nor blanks. -/
def scalarOf? (s : List Char) : Option Json :=
  if s = ['n', 'u', 'l', 'l'] then some .null
  else if s = ['t', 'r', 'u', 'e'] then some (.bool true)
  else if s = ['f', 'a', 'l', 's', 'e'] then some (.bool false)
  else numberOf? s

/-- Where the machine stands; what is read of a token is kept last character first. -/
inductive Scan where
  | between
  | word (read : List Char)
  | text (read : List (Nat ⊕ Char))
  | escape (read : List (Nat ⊕ Char))
  | unicode (read : List (Nat ⊕ Char)) (digits : Nat) (value : Nat)

def markOf? : Char → Option Token
  | '[' => some .openArray
  | ']' => some .closeArray
  | '\x7b' => some .openObject
  | '\x7d' => some .closeObject
  | ',' => some .comma
  | ':' => some .colon
  | _ => none

def isSpace (c : Char) : Bool :=
  c == ' ' || c == '\n' || c == '\r' || c == '\t'

/-- The tokens from a place in a text on; `none` where no token can be read. -/
def tokensFrom : Scan → List Char → Option (List Token)
  | .between, [] => some []
  | .word read, [] => (scalarOf? read.reverse).map fun j => [.scalar j]
  | .text _, [] => none
  | .escape _, [] => none
  | .unicode _ _ _, [] => none
  | .between, c :: rest =>
    if isSpace c then tokensFrom .between rest
    else if c = '"' then tokensFrom (.text []) rest
    else match markOf? c with
      | some mark => (tokensFrom .between rest).map (mark :: ·)
      | none => tokensFrom (.word [c]) rest
  | .word read, c :: rest =>
    if isSpace c then (scalarOf? read.reverse).bind fun j => (tokensFrom .between rest).map (.scalar j :: ·)
    else if c = '"' then none
    else match markOf? c with
      | some mark =>
        (scalarOf? read.reverse).bind fun j => (tokensFrom .between rest).map fun ts => .scalar j :: mark :: ts
      | none => tokensFrom (.word (c :: read)) rest
  | .text read, c :: rest =>
    if c = '"' then
      (tokensFrom .between rest).map (.text ((textOfUnits read.reverse).map String.ofList) :: ·)
    else if c = '\\' then tokensFrom (.escape read) rest
    else if c.toNat < 32 then none
    else tokensFrom (.text (.inr c :: read)) rest
  | .escape read, c :: rest =>
    if c = 'u' then tokensFrom (.unicode read 0 0) rest
    else (simpleEscape? c).bind fun d => tokensFrom (.text (.inr d :: read)) rest
  | .unicode read digits value, c :: rest =>
    (hexValue? c).bind fun v =>
      if digits = 3 then tokensFrom (.text (.inl (16 * value + v) :: read)) rest
      else tokensFrom (.unicode read (digits + 1) (16 * value + v)) rest

def tokens? (s : String) : Option (List Token) :=
  tokensFrom .between s.toList

end ClientGen.Json
