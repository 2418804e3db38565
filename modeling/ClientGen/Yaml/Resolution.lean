import ClientGen.Number.Double
import ClientGen.Text.LetterCase
import ClientGen.Yaml.Alias

/-!
# What plain scalars say

A plain scalar may say a null, a boolean, an integer or a real number, and is a text otherwise. Digits after a
leading zero are a text.
-/

namespace ClientGen.Yaml

inductive Meaning where
  | null
  | bool (value : Bool)
  | int (value : Int)
  | real
  | text
  deriving DecidableEq, Repr

def isNullText (s : String) : Bool :=
  s == "null" || s == "Null" || s == "NULL" || s == "~"

def boolOf? (s : String) : Option Bool :=
  if s == "true" || s == "True" || s == "TRUE" then some true
  else if s == "false" || s == "False" || s == "FALSE" then some false
  else none

/-- Two or more digits with a leading zero, after a sign if any. -/
def isPaddedNumber (s : List Char) : Bool :=
  let s := match s with
    | '-' :: rest => rest
    | '+' :: rest => rest
    | s => s
  1 < s.length && s.head? == some '0' && s.all Char.isDigit

/-- Digits in base sixteen, eight or two after their mark, or in base ten without leading zeros. -/
def magnitude? (s : List Char) : Option Nat :=
  let based := match s with
    | '0' :: 'x' :: rest => digits? 16 rest
    | '0' :: 'o' :: rest => digits? 8 rest
    | '0' :: 'b' :: rest => digits? 2 rest
    | _ => none
  based <|> (if isPaddedNumber s then none else digits? 10 s)

def natural? (s : List Char) : Option Nat :=
  match s with
  | '+' :: rest => magnitude? rest
  | s => magnitude? s

/-- An integer below `2 ^ 128` and not below `-2 ^ 127`. -/
def integer? (s : List Char) : Option Int :=
  match s with
  | '-' :: rest => ((magnitude? rest).filter (· ≤ Nat.pow 2 127)).map fun n => -(n : Int)
  | s => ((natural? s).filter (· < Nat.pow 2 128)).map Int.ofNat

/-- Whole digits, a fraction and an exponent, with a digit before or after the point: the digits and the exponent. -/
def decimal? (s : List Char) : Option (List Char × Int) :=
  let s := match s with
    | '-' :: rest => rest
    | s => s
  let whole := s.takeWhile Char.isDigit
  let rest := s.drop whole.length
  let (fraction, rest) := match rest with
    | '.' :: rest => (rest.takeWhile Char.isDigit, rest.dropWhile Char.isDigit)
    | rest => ([], rest)
  if whole.isEmpty && fraction.isEmpty then none
  else
    let digits := whole ++ fraction
    match rest with
    | [] => some (digits, -fraction.length)
    | e :: rest =>
      if e ≠ 'e' ∧ e ≠ 'E' then none
      else
        let (negative, rest) := match rest with
          | '-' :: rest => (true, rest)
          | '+' :: rest => (false, rest)
          | rest => (false, rest)
        (digits? 10 rest).map fun n => (digits, (if negative then -(n : Int) else n) - fraction.length)

/-- A number that a double can hold, or one of the spellings of infinity and of no number. -/
def isReal (s : List Char) : Bool :=
  let unsigned := match s with
    | '+' :: rest => rest
    | s => s
  let named := [".inf", ".Inf", ".INF", "-.inf", "-.Inf", "-.INF", ".nan", ".NaN", ".NAN"]
  named.contains (String.ofList s) || (s.head? == some '+' && (named.take 3).contains (String.ofList unsigned)) ||
    (!(s.head? == some '+' && unsigned.head? == some '-') && (decimal? unsigned).any fun (digits, scale) =>
      ((digits? 10 digits).bind fun n => Double.ofDecimal? false n scale).isSome)

def meaning (s : String) : Meaning :=
  if s.isEmpty || isNullText s then .null
  else match boolOf? s with
    | some b => .bool b
    | none => match integer? s.toList with
      | some n => .int n
      | none => if !isPaddedNumber s.toList && isReal s.toList then .real else .text

end ClientGen.Yaml
