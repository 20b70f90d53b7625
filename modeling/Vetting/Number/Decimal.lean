import Vetting.Number.Shortest

/-!
# Decimal numbers

A finite decimal keeps its sign, its coefficient and its exponent apart, so that
1.50 and 1.5 are equal numbers with different texts. There are two kinds of NaN;
the signalling kind may not take part in any comparison. Quantizing a number
gives it a wanted exponent, rounding or padding its coefficient, and is refused
when there is no such exponent, or the coefficient would need more digits than the
precision allows.
-/
namespace Vetting.Number

inductive Decimal where
  | finite (negative : Bool) (coefficient : Nat) (exponent : Int)
  | infinite (negative : Bool)
  | quietNaN (negative : Bool) (payload : Nat)
  | signalNaN (negative : Bool) (payload : Nat)
  deriving DecidableEq, Repr

def digitCount (n : Nat) : Nat := (Nat.repr n).length

namespace Decimal

def isFinite : Decimal → Bool
  | .finite .. => true
  | _ => false

def isZero : Decimal → Bool
  | .finite _ 0 _ => true
  | _ => false

def isSignal : Decimal → Bool
  | .signalNaN .. => true
  | _ => false

def isNaN : Decimal → Bool
  | .quietNaN .. => true
  | .signalNaN .. => true
  | _ => false

/-- Exponent of the leading digit, zero for what is not finite. -/
def adjusted : Decimal → Int
  | .finite _ c e => e + digitCount c - 1
  | _ => 0

def largestExponent : Int := 999999

/-- Written form: positional while the exponent is at most zero and no more than
five zeros follow the point, otherwise one digit before the point and an exponent. -/
def text : Decimal → String
  | .finite negative c e =>
      let ds := (Nat.repr c).toList
      let lead : Int := e + ds.length - 1
      let body :=
        if e ≤ 0 ∧ -6 ≤ lead then
          if e = 0 then ds
          else if 0 ≤ lead then
            ds.take (lead + 1).toNat ++ '.' :: ds.drop (lead + 1).toNat
          else '0' :: '.' :: zeros (-lead - 1).toNat ++ ds
        else
          let mark := 'E' :: (if lead < 0 then '-' else '+') :: (Nat.repr lead.natAbs).toList
          match ds with
          | [] => mark
          | [d] => d :: mark
          | d :: rest => d :: '.' :: rest ++ mark
      String.ofList (if negative then '-' :: body else body)
  | .infinite negative => if negative then "-Infinity" else "Infinity"
  | .quietNaN negative p =>
      (if negative then "-NaN" else "NaN") ++ (if p = 0 then "" else Nat.repr p)
  | .signalNaN negative p =>
      (if negative then "-sNaN" else "sNaN") ++ (if p = 0 then "" else Nat.repr p)

/-- The nearest binary number; none for the signalling NaN. -/
def toBinary64? : Decimal → Option Binary64
  | .finite negative c e => some (Binary64.ofScaled negative c e)
  | .infinite negative => some (.infinite negative)
  | .quietNaN .. => some .nan
  | .signalNaN .. => none

/-- The decimal with the shortest digits of a binary number, to one place when the
number is integral and written out in full. -/
def ofShortest : Binary64 → Decimal
  | .nan => .quietNaN false 0
  | .infinite negative => .infinite negative
  | .finite negative m e =>
      let s := shortest m e
      let point : Int := digitCount s.digits + s.exponent
      if -4 < point ∧ point ≤ 16 ∧ 0 ≤ s.exponent then
        .finite negative (s.digits * Nat.pow 10 (s.exponent.toNat + 1)) (-1)
      else .finite negative s.digits s.exponent

/-- The least exponent that a number of this precision can be given. -/
def leastExponent (precision : Nat) : Int := 1 - largestExponent - precision

/-- A coefficient moved by some places to the left, or to the right, where it is rounded. -/
def shifted (tie : Tie) (c : Nat) (places : Int) : Nat :=
  if 0 ≤ places then c * Nat.pow 10 places.toNat
  else roundDiv tie c (Nat.pow 10 (-places).toNat)

/-- Gives a finite number the exponent `e`. None when there is no such exponent, when the
coefficient has more digits than `precision` before or after rounding, or the number would be
too large. -/
def quantize (tie : Tie) (precision : Nat) (e : Int) : Decimal → Option Decimal
  | .finite negative c q =>
      if e < leastExponent precision ∨ largestExponent < e then none
      else if c = 0 then some (.finite negative 0 e)
      else if (precision : Int) < digitCount c + (q - e) then none
      else
        let r := shifted tie c (q - e)
        if precision < digitCount r ∨ largestExponent < e + digitCount r - 1 then none
        else some (.finite negative r e)
  | d => some d

end Decimal

end Vetting.Number
