import Vetting.Number.Binary64

/-!
# Sums and products of binary numbers

Every finite number is a whole number of the least positive ones, so that sums and
products are formed exactly and rounded once.
-/
namespace Vetting.Number.Binary64

/-- How many of the least positive numbers make up a finite number, without its sign. -/
def units (m : Nat) (e : Int) : Nat := m <<< (e - minExponent).toNat

def unitsOfOne : Nat := Nat.pow 2 1074

def negate : Binary64 → Binary64
  | .nan => .nan
  | .infinite s => .infinite !s
  | .finite s m e => .finite (!s) m e

/-- The sum of two numbers. A sum of zero is negative only if both numbers are. -/
def plus : Binary64 → Binary64 → Binary64
  | .finite s m e, .finite t n f =>
      let a := units m e
      let b := units n f
      if s = t then ofRatio s (a + b) unitsOfOne
      else if a = b then zero false
      else if b < a then ofRatio s (a - b) unitsOfOne
      else ofRatio t (b - a) unitsOfOne
  | .infinite s, .infinite t => if s = t then .infinite s else .nan
  | .nan, _ => .nan
  | _, .nan => .nan
  | .infinite s, _ => .infinite s
  | _, .infinite t => .infinite t

def times : Binary64 → Binary64 → Binary64
  | .finite s m e, .finite t n f =>
      ofRatio (s != t) (units m e * units n f) (unitsOfOne * unitsOfOne)
  | .nan, _ => .nan
  | _, .nan => .nan
  | .infinite s, .infinite t => .infinite (s != t)
  | .infinite s, .finite t n _ => if n = 0 then .nan else .infinite (s != t)
  | .finite s m _, .infinite t => if m = 0 then .nan else .infinite (s != t)

end Vetting.Number.Binary64
