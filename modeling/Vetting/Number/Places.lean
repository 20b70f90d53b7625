import Vetting.Number.Shortest

/-!
# A wanted number of digits

Positive quotients in decimal, to some places after the point or to some significant
digits, each the nearest of its kind with ties going to the even neighbour.
-/
namespace Vetting.Number

def toPlaces (n d places : Nat) : Scaled :=
  ⟨roundDiv .even (n * Nat.pow 10 places) d, -(places : Int)⟩

/-- A quotient to `count` significant digits, which is at least one. -/
def toSignificant (n d count : Nat) : Scaled :=
  if n = 0 then ⟨0, 0⟩
  else
    let k : Int := leadingExponent n d - count + 1
    let s := roundDiv .even (n * Nat.pow 10 (-k).toNat) (d * Nat.pow 10 k.toNat)
    if s = Nat.pow 10 count then ⟨s / 10, k + 1⟩ else ⟨s, k⟩

/-- Decimal digits of a number, filled up with zeros in front. -/
def digitField (width n : Nat) : List Char :=
  let ds := (Nat.repr n).toList
  zeros (width - ds.length) ++ ds

end Vetting.Number
