import Ambient.Number.Double

namespace Ambient.Double

/-!
# The shortest decimal of a double

Of all decimals that round to a double, the one with the fewest digits is
written, and of two of the same length the nearer. Digits are always written
in place, without an exponent.
-/

/-- A decimal `digits * 10 ^ scale`. -/
structure Decimal where
  digits : Nat
  scale : Int
deriving DecidableEq, Repr

/-- The whole numbers `a` and `b` in the ratio of `digits * 10 ^ scale` to
`num / den`. -/
def Decimal.against (x : Decimal) (num den : Nat) : Nat × Nat :=
  if 0 ≤ x.scale then (x.digits * Nat.pow 10 x.scale.toNat * den, num)
  else (x.digits * den, num * Nat.pow 10 (-x.scale).toNat)

/-- The reals that round to a positive double, as quotients over one divisor:
the double itself, and the two ends of the interval around it. -/
structure Neighbourhood where
  value : Nat
  low : Nat
  high : Nat
  den : Nat
  endsIncluded : Bool

def neighbourhood (x : Double) : Neighbourhood :=
  let below := if x.mantissa = Nat.pow 2 52 ∧ minExponent < x.exponent then 1 else 2
  let e := x.exponent - 2
  let n := if 0 ≤ e then Nat.pow 2 e.toNat else 1
  let d := if 0 ≤ e then 1 else Nat.pow 2 (-e).toNat
  ⟨4 * x.mantissa * n, (4 * x.mantissa - below) * n, (4 * x.mantissa + 2) * n, d,
    x.mantissa % 2 = 0⟩

/-- Whether a decimal rounds to the double of a neighbourhood. -/
def Neighbourhood.contains (h : Neighbourhood) (x : Decimal) : Bool :=
  let (a, low) := x.against h.low h.den
  let (b, high) := x.against h.high h.den
  if h.endsIncluded then low ≤ a && b ≤ high else low < a && b < high

/-- The least `k` with `num / den < 10 ^ k`, for a positive quotient. -/
def magnitude (num den : Nat) : Int :=
  if den ≤ num then ((Nat.toDigits 10 (num / den)).length : Int)
  else 1 - ((Nat.toDigits 10 ((den - 1) / num)).length : Int)

/-- The decimal at this scale that a neighbourhood holds; of two the nearer,
and the larger if they are equally near. -/
def Neighbourhood.decimalAt (h : Neighbourhood) (scale : Int) : Option Decimal :=
  let (unit, value) := Decimal.against ⟨1, scale⟩ h.value h.den
  let below : Decimal := ⟨value / unit, scale⟩
  let above : Decimal := ⟨value / unit + 1, scale⟩
  match h.contains below, h.contains above with
  | true, true => if 2 * (value % unit) < unit then some below else some above
  | true, false => some below
  | false, true => some above
  | false, false => none

/-- The first decimal found while digits are added one at a time. -/
def Neighbourhood.shortestFrom (h : Neighbourhood) (scale : Int) : Nat → Decimal
  | 0 => (h.decimalAt scale).getD ⟨0, 0⟩
  | more + 1 => (h.decimalAt scale).getD (h.shortestFrom (scale - 1) more)

/-- The shortest decimal of a positive double. Seventeen digits always do. -/
def shortest (x : Double) : Decimal :=
  let h := x.neighbourhood
  h.shortestFrom (magnitude h.value h.den - 1) 16

/-- Leading digits with the zeros at the end taken off. -/
def trimZeros (digits : List Char) : List Char :=
  (digits.reverse.dropWhile (· = '0')).reverse

/-- The digits of a decimal in their places. -/
def Decimal.positional (x : Decimal) : List Char :=
  let digits := Nat.toDigits 10 x.digits
  if 0 ≤ x.scale then digits ++ List.replicate x.scale.toNat '0'
  else
    let places := (-x.scale).toNat
    let padded := List.replicate (places + 1 - digits.length) '0' ++ digits
    let whole := padded.take (padded.length - places)
    match trimZeros (padded.drop (padded.length - places)) with
    | [] => whole
    | fraction => whole ++ '.' :: fraction

/-- The text of a double: no exponent, no point in a whole number, and a minus
sign also before a negative zero. -/
def text (x : Double) : String :=
  let magnitude := if x.isZero then ['0'] else x.shortest.positional
  String.ofList (if x.negative then '-' :: magnitude else magnitude)

/-- The text of a double with a point, also where it is a whole number. -/
def markedText (x : Double) : String :=
  if x.text.toList.contains '.' then x.text else x.text ++ ".0"

end Ambient.Double
