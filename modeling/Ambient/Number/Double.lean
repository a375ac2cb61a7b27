namespace Ambient

/-!
# Double precision numbers

A finite double is a sign, a whole mantissa and a power of two. Products and
quotients are formed exactly and then rounded to the nearest double, ties to
the even mantissa, so every step can be followed in whole numbers.
-/

/-- The number `mantissa * 2 ^ exponent`, negated when `negative` is set. -/
structure Double where
  negative : Bool
  mantissa : Nat
  exponent : Int
deriving DecidableEq, Repr

namespace Double

/-- The exponent of the smallest positive double. -/
def minExponent : Int := -1074

/-- The exponent of the largest finite double. -/
def maxExponent : Int := 971

def zero : Double := ⟨false, 0, minExponent⟩

def isZero (x : Double) : Bool := x.mantissa == 0

def neg (x : Double) : Double := { x with negative := !x.negative }

/-- `num / den` to the nearest whole number, a half going to the even side. -/
def divEven (num den : Nat) : Nat :=
  let q := num / den
  let r := num % den
  if 2 * r < den then q else if den < 2 * r then q + 1 else q + q % 2

/-- `num / (den * 2 ^ e)` as a quotient of whole numbers. -/
def scaled (num den : Nat) (e : Int) : Nat × Nat :=
  if 0 ≤ e then (num, den * Nat.pow 2 e.toNat) else (num * Nat.pow 2 (-e).toNat, den)

/-- The exponent at which `num / den` has a mantissa of 53 bits, or the least
exponent if that is larger. -/
def exponentOf (num den : Nat) : Int :=
  let e : Int := (num.log2 : Int) - den.log2 - 52
  let (n, d) := scaled num den e
  max minExponent (if n / d < Nat.pow 2 52 then e - 1 else e)

/-- The double nearest to `num / den`; `none` when that is too large. -/
def ofQuotient? (num den : Nat) : Option Double :=
  if num = 0 then some zero else
    let e := exponentOf num den
    let (n, d) := scaled num den e
    let m := divEven n d
    let x : Double := if m = Nat.pow 2 53 then ⟨false, Nat.pow 2 52, e + 1⟩ else ⟨false, m, e⟩
    if maxExponent < x.exponent then none else some x

/-- The double nearest to a whole number below `2 ^ 1024`. -/
def ofNat (n : Nat) : Double := (ofQuotient? n 1).getD zero

def ofInt (n : Int) : Double :=
  if n < 0 then (ofNat n.natAbs).neg else ofNat n.natAbs

/-- `num / den * 2 ^ e` rounded. -/
def ofScaled? (num den : Nat) (e : Int) : Option Double :=
  if 0 ≤ e then ofQuotient? (num * Nat.pow 2 e.toNat) den
  else ofQuotient? num (den * Nat.pow 2 (-e).toNat)

/-- The rounded product of two magnitudes. -/
def mul? (x y : Double) : Option Double :=
  ofScaled? (x.mantissa * y.mantissa) 1 (x.exponent + y.exponent)

/-- The rounded quotient of two magnitudes; the divisor is not zero. -/
def div? (x y : Double) : Option Double :=
  ofScaled? x.mantissa y.mantissa (x.exponent - y.exponent)

end Double

end Ambient
