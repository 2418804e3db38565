/-!
# Doubles

Finite binary floating-point numbers with 53 significant bits, as exact values `± significand · 2 ^ exponent`. Every
operation is the exact one followed by one rounding to the nearest double, a tie going to the even significand.
-/

namespace ClientGen

/-- A finite double. The significand is below `2 ^ 53`, and at least `2 ^ 52` unless the exponent is `-1074`. -/
structure Double where
  negative : Bool
  significand : Nat
  exponent : Int
  deriving DecidableEq, Repr

namespace Double

/-- A quotient rounded to the nearest integer, a tie to the even one. -/
def roundQuotient (num den : Nat) : Nat :=
  let whole := num / den
  let twice := 2 * (num % den)
  if twice < den then whole else if den < twice then whole + 1 else whole + whole % 2

/-- The quotient `num · 2 ^ (-e) / den` as numerator and denominator. -/
def scaled (num den : Nat) (e : Int) : Nat × Nat :=
  match e with
  | .ofNat k => (num, den * Nat.pow 2 k)
  | .negSucc k => (num * Nat.pow 2 (k + 1), den)

/-- The exponent with which a quotient has a significand of 53 bits, or the least exponent there is. -/
def exponentFor (num den : Nat) : Int :=
  let guess := max ((Nat.log2 num : Int) - Nat.log2 den - 53) (-1074)
  let (n, d) := scaled num den guess
  if Nat.pow 2 53 ≤ n / d then guess + 1 else guess

/-- The double nearest to `num / den`; `none` beyond the largest one. -/
def ofQuotient? (negative : Bool) (num den : Nat) : Option Double :=
  if num = 0 then some ⟨negative, 0, -1074⟩
  else
    let e := exponentFor num den
    let (n, d) := scaled num den e
    let m := roundQuotient n d
    let (m, e) := if m = Nat.pow 2 53 then (Nat.pow 2 52, e + 1) else (m, e)
    if 971 < e then none else some ⟨negative, m, e⟩

def quotient (x : Double) : Nat × Nat :=
  match x.exponent with
  | .ofNat k => (x.significand * Nat.pow 2 k, 1)
  | .negSucc k => (x.significand, Nat.pow 2 (k + 1))

/-- The magnitude of one double times that of another, with the sign of the first. -/
def times? (x y : Double) : Option Double :=
  ofQuotient? x.negative (x.quotient.1 * y.quotient.1) (x.quotient.2 * y.quotient.2)

/-- The magnitude of one double over that of another, with the sign of the first. -/
def over? (x y : Double) : Option Double :=
  ofQuotient? x.negative (x.quotient.1 * y.quotient.2) (x.quotient.2 * y.quotient.1)

def power? (k : Nat) : Option Double :=
  ofQuotient? false (Nat.pow 10 k) 1

/-- Divides by `10 ^ 308` and once more by what is left of `10 ^ drop`. -/
def lowered? (x : Double) (drop : Nat) : Option Double :=
  if drop ≤ 308 then (power? drop).bind x.over?
  else if x.significand = 0 then some x
  else ((power? 308).bind x.over?).bind fun y =>
    if 616 < drop then some { y with significand := 0, exponent := -1074 }
    else (power? (drop - 308)).bind y.over?

/-- A decimal `± digits · 10 ^ scale`, read in two roundings: the digits, then their product or quotient with a power
of ten. `none` beyond the largest double. -/
def ofDecimal? (negative : Bool) (digits : Nat) (scale : Int) : Option Double :=
  (ofQuotient? negative digits 1).bind fun x =>
    match scale with
    | .ofNat k =>
      if digits = 0 then some x
      else if 308 < k then none
      else (power? k).bind x.times?
    | .negSucc k => x.lowered? (k + 1)

end Double

end ClientGen
