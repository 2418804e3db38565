import ClientGen.Number.Double

/-!
# The shortest decimal of a double

Of the decimals that round to a double, `shortest` takes those with the fewest digits and of them the nearest one;
a tie goes to the even last digit. `text` writes it with a point up to `10 ^ 16` and down to `10 ^ -5`, and with an
exponent beyond.
-/

namespace ClientGen.Double

/-- How many digits stand before the point of `num / den`; zero or less for a quotient below one, by the zeros
after the point. -/
def magnitude (num den : Nat) : Int :=
  if den ≤ num then (Nat.toDigits 10 (num / den)).length
  else
    let zeros := (Nat.toDigits 10 den).length - (Nat.toDigits 10 num).length
    if den ≤ num * Nat.pow 10 zeros then 1 - (zeros : Int) else -(zeros : Int)

/-- The quotient `num · 10 ^ (-k) / den` as numerator and denominator. -/
def decimalScaled (num den : Nat) (k : Int) : Nat × Nat :=
  match k with
  | .ofNat k => (num, den * Nat.pow 10 k)
  | .negSucc k => (num * Nat.pow 10 (k + 1), den)

/-- The decimals that round to a positive double: the interval from `low / den` to `high / den` around `mid / den`,
the ends included when the significand is even. -/
structure Interval where
  low : Nat
  mid : Nat
  high : Nat
  den : Nat
  closed : Bool

def interval (x : Double) : Interval :=
  let below := if x.significand = Nat.pow 2 52 ∧ -1074 < x.exponent then 1 else 2
  let (num, den) := quotient { x with significand := 1, exponent := x.exponent - 2 }
  { low := (4 * x.significand - below) * num
    mid := 4 * x.significand * num
    high := (4 * x.significand + 2) * num
    den := den
    closed := x.significand % 2 == 0 }

def Interval.covers (i : Interval) (digits : Nat) (k : Int) : Bool :=
  let (low, d) := decimalScaled i.low i.den k
  let (high, _) := decimalScaled i.high i.den k
  if i.closed then low ≤ digits * d && digits * d ≤ high else low < digits * d && digits * d < high

def Interval.onGrid? (i : Interval) (k : Int) : Option Nat :=
  let (mid, d) := decimalScaled i.mid i.den k
  let down := mid / d
  let nearest := roundQuotient mid d
  let other := if nearest = down then down + 1 else down
  if i.covers nearest k then some nearest else if i.covers other k then some other else none

/-- Searches the grids with `count`, `count + 1`, … digits, as many as `more` says. -/
def Interval.search (i : Interval) (order : Int) : Nat → Nat → Nat × Int
  | 0, count => ((decimalScaled i.mid i.den (order - count)).1, order - count)
  | more + 1, count =>
    match i.onGrid? (order - count) with
    | some digits => (digits, order - count)
    | none => i.search order more (count + 1)

/-- The shortest decimal of a positive double, as digits and the power of ten of the last one. -/
def shortest (x : Double) : Nat × Int :=
  let i := x.interval
  i.search (magnitude i.mid i.den) 17 1

def withoutZeros : List Char → Int → List Char × Int
  | '0' :: rest, k => withoutZeros rest (k + 1)
  | digits, k => (digits.reverse, k)

def text (x : Double) : String :=
  let sign := if x.negative then "-" else ""
  if x.significand = 0 then sign ++ "0.0"
  else
    let (digits, scale) := x.shortest
    let (digits, scale) := withoutZeros (Nat.toDigits 10 digits).reverse scale
    let point : Int := digits.length + scale
    let shown : List Char :=
      if 0 ≤ scale ∧ point ≤ 16 then digits ++ List.replicate scale.toNat '0' ++ ['.', '0']
      else if 0 < point ∧ point ≤ 16 then digits.take point.toNat ++ '.' :: digits.drop point.toNat
      else if -5 < point ∧ point ≤ 0 then ['0', '.'] ++ List.replicate (-point).toNat '0' ++ digits
      else
        let mantissa := match digits with
          | [] => []
          | [d] => [d]
          | d :: rest => d :: '.' :: rest
        mantissa ++ 'e' :: (toString (point - 1)).toList
    sign ++ String.ofList shown

end ClientGen.Double
