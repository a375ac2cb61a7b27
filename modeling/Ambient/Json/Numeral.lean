import Ambient.Json.Basic

namespace Ambient.Json.Numeral

/-!
# Reading numbers

The leading digits that fit 64 bits are read as a whole number; it is turned
into a double and then multiplied or divided by a power of ten, each step
rounding. This is fast, and off by a last digit where two roundings add up.
-/

/-- The parts of a number as it is written. -/
structure Parts where
  negative : Bool
  whole : List Char
  fraction : Option (List Char)
  /-- Whether the power of ten is negative, and its digits. -/
  power : Option (Bool × List Char)

/-- The parts of a well-formed number. -/
def Parts.ofList (cs : List Char) : Parts :=
  let negative := cs.head? == some '-'
  let cs := if negative then cs.drop 1 else cs
  let whole := cs.takeWhile Char.isDigit
  let cs := cs.dropWhile Char.isDigit
  let hasFraction := cs.head? == some '.'
  let fraction := if hasFraction then some ((cs.drop 1).takeWhile Char.isDigit) else none
  let cs := if hasFraction then (cs.drop 1).dropWhile Char.isDigit else cs
  let power := match cs with
    | _ :: '-' :: digits => some (true, digits)
    | _ :: '+' :: digits => some (false, digits)
    | _ :: digits => some (false, digits)
    | [] => none
  ⟨negative, whole, fraction, power⟩

/-- The value of a decimal digit. -/
def digit (c : Char) : Nat := c.toNat - '0'.toNat

/-- The least whole number that does not fit 64 bits. -/
def wholeLimit : Nat := Nat.pow 2 64

/-- The whole number that digits continue, as long as it fits 64 bits, and the
digits that are left over. -/
def significant (n : Nat) : List Char → Nat × List Char
  | [] => (n, [])
  | c :: cs =>
    let next := 10 * n + digit c
    if wholeLimit ≤ next then (n, c :: cs) else significant next cs

/-- The largest power of ten that is a double. -/
def maxPower : Nat := 308

/-- `10 ^ k` as a double. -/
def tenPower (k : Nat) : Double := Double.ofNat (Nat.pow 10 k)

/-- `x / 10 ^ k`, divided by at most `10 ^ maxPower` at a time. -/
def shrink (x : Double) (k : Nat) : Double :=
  if k ≤ maxPower then (x.div? (tenPower k)).getD .zero
  else if x.isZero then x
  else shrink ((x.div? (tenPower maxPower)).getD .zero) (k - maxPower)
termination_by k
decreasing_by simp only [maxPower] at *; omega

/-- `n * 10 ^ e` as a double; `none` when it is too large. -/
def scale? (n : Nat) (e : Int) : Option Double :=
  let x := Double.ofNat n
  if e < 0 then some (shrink x (-e).toNat)
  else if e ≤ maxPower then x.mul? (tenPower e.toNat)
  else if x.isZero then some x
  else none

/-- A whole number, unless it is a negative zero or does not fit 64 bits. -/
def ofWhole (negative : Bool) (n : Nat) : Numeral :=
  if !negative then .whole n
  else if n = 0 ∨ wholeLimit < 2 * n then .double (Double.ofNat n).neg
  else .whole (-n)

/-- The largest power that is looked at. -/
def maxExponent : Nat := 2147483647

/-- The number with these parts; `none` when it is too large for a double. -/
def ofParts? (p : Parts) : Option Numeral := do
  let (n, dropped) := significant 0 p.whole
  if p.fraction.isNone && p.power.isNone && dropped.isEmpty then
    return ofWhole p.negative n
  let fraction := p.fraction.getD []
  let (n, unused) := significant n fraction
  let e : Int := dropped.length - (fraction.length - unused.length : Nat)
  let sign (x : Double) : Numeral := .double (if p.negative then x.neg else x)
  let (down, digits) := p.power.getD (false, [])
  let power := digits.foldl (fun k c => 10 * k + digit c) 0
  if maxExponent < power then
    if n ≠ 0 && !down then none else return sign .zero
  return sign (← scale? n (if down then e - power else e + power))

end Ambient.Json.Numeral
