import Vetting.Number.Rounding

/-!
# Binary floating point with 53 bits

A finite number is a sign, a mantissa and a power of two. Results of the functions
here are in lowest position: the mantissa is below 2^53, and at least 2^52 unless
the exponent is the least one, -1074. Reading a quotient takes the nearest number
and an even mantissa on a tie; what lies beyond the largest number is infinite.

There is one NaN. Equality of the type tells the two zeros apart; the order of
numbers is in `Vetting.Number.Order`.
-/
namespace Vetting.Number

inductive Binary64 where
  | nan
  | infinite (negative : Bool)
  | finite (negative : Bool) (mantissa : Nat) (exponent : Int)
  deriving DecidableEq, Repr

namespace Binary64

def minExponent : Int := -1074

def maxExponent : Int := 971

def zero (negative : Bool) : Binary64 := .finite negative 0 minExponent

/-- The quotient `n / d` over `2 ^ e`, again as a quotient. -/
def overPower (n d : Nat) (e : Int) : Nat × Nat :=
  if 0 ≤ e then (n, d <<< e.toNat) else (n <<< (-e).toNat, d)

/-- Exponent for which the mantissa of `n / d` has 53 bits, or the least one. -/
def exponentFor (n d : Nat) : Int :=
  let low : Int := (bitLength n : Int) - bitLength d - 53
  let s := overPower n d low
  max minExponent (if Nat.pow 2 53 ≤ s.1 / s.2 then low + 1 else low)

/-- Puts a mantissa that rounding brought to 54 bits back in position. -/
def settle (negative : Bool) (m : Nat) (e : Int) : Binary64 :=
  let r := if m = Nat.pow 2 53 then (Nat.pow 2 52, e + 1) else (m, e)
  if maxExponent < r.2 then .infinite negative else .finite negative r.1 r.2

def ofRatio (negative : Bool) (n d : Nat) : Binary64 :=
  if n = 0 ∨ d = 0 then zero negative
  else
    let e := exponentFor n d
    let s := overPower n d e
    settle negative (roundDiv .even s.1 s.2) e

/-- A number of decimal digits that positive numbers with so many bits have at least, not
counting the last one. -/
def digitsWithin (bits : Nat) : Nat := (bits - 1) * 3 / 10

/-- A number of decimal digits that numbers with so many bits have at most. -/
def digitsBeyond (bits : Nat) : Nat := bits * 28 / 93 + 1

/-- The number nearest to `n * 10 ^ k`. Orders of magnitude beyond both ends of the
range are settled without forming the power of ten. -/
def ofScaled (negative : Bool) (n : Nat) (k : Int) : Binary64 :=
  let bits := bitLength n
  if n = 0 then zero negative
  else if 400 < (digitsWithin bits : Int) + k then .infinite negative
  else if (digitsBeyond bits : Int) + k < -400 then zero negative
  else if 0 ≤ k then ofRatio negative (n * Nat.pow 10 k.toNat) 1
  else ofRatio negative n (Nat.pow 10 (-k).toNat)

/-- The number nearest to an integer, infinite when the integer is too large. -/
def ofInt (n : Int) : Binary64 := ofRatio (n < 0) n.natAbs 1

def isFinite : Binary64 → Bool
  | .finite .. => true
  | _ => false

def isZero : Binary64 → Bool
  | .finite _ 0 _ => true
  | _ => false

def ratio (m : Nat) (e : Int) : Nat × Nat :=
  if 0 ≤ e then (m <<< e.toNat, 1) else (m, 1 <<< (-e).toNat)

def isInteger : Binary64 → Bool
  | .finite _ m e => let r := ratio m e; r.1 % r.2 == 0
  | _ => false

/-- The greatest integer not above a number, zero when there is none. -/
def floor : Binary64 → Int
  | .finite negative m e =>
      let r := ratio m e
      if negative then -(((r.1 + (r.2 - 1)) / r.2 : Nat) : Int) else ((r.1 / r.2 : Nat) : Int)
  | _ => 0

/-- The least integer not below a number, zero when there is none. -/
def ceil : Binary64 → Int
  | .finite negative m e =>
      let r := ratio m e
      if negative then -((r.1 / r.2 : Nat) : Int) else (((r.1 + (r.2 - 1)) / r.2 : Nat) : Int)
  | _ => 0

end Binary64

end Vetting.Number
