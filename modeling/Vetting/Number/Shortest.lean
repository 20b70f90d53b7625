import Vetting.Number.Binary64
import Vetting.Text.Digit

/-!
# Shortest decimal text of a binary number

The reals that round to a given number form an interval, closed exactly when the
mantissa is even. For one digit, then two and so on, the two neighbours of the
number on the decimal grid with that many digits are tried; the first grid with a
point in the interval wins, of two points the nearer, and of two at equal distance
the one with an even last digit. Seventeen digits always suffice.

The written form is positional while the decimal point stands at most sixteen
places to the right and three zeros to the left of the digits.
-/
namespace Vetting.Number

/-- A number in decimal: its significant digits times a power of ten. -/
structure Scaled where
  digits : Nat
  exponent : Int
  deriving DecidableEq, Repr

/-- `n * 10 ^ k * 2 ^ j` against `m`, each side cleared of negative powers. -/
def scaledPair (n : Nat) (k : Int) (m : Nat) (j : Int) : Nat × Nat :=
  (n * Nat.pow 10 k.toNat * Nat.pow 2 (-j).toNat, m * Nat.pow 2 j.toNat * Nat.pow 10 (-k).toNat)

/-- Whether `n * 10 ^ k` rounds to the number with this mantissa and exponent. -/
def roundsTo (m : Nat) (e : Int) (n : Nat) (k : Int) : Bool :=
  let top := scaledPair n k (4 * m + 2) (e - 2)
  let under := if m = Nat.pow 2 52 ∧ Binary64.minExponent < e then 4 * m - 1 else 4 * m - 2
  let bottom := scaledPair n k under (e - 2)
  if m % 2 = 0 then top.1 ≤ top.2 && bottom.2 ≤ bottom.1
  else top.1 < top.2 && bottom.2 < bottom.1

def powerBelow (t : Int) (n d : Nat) : Bool :=
  Nat.pow 10 t.toNat * d ≤ n * Nat.pow 10 (-t).toNat

/-- Exponent of the leading decimal digit of a positive quotient. -/
def leadingExponent (n d : Nat) : Int :=
  let guess : Int := ((bitLength n : Int) - bitLength d) * 30103 / 100000
  if powerBelow (guess + 1) n d then guess + 1
  else if powerBelow guess n d then guess
  else if powerBelow (guess - 1) n d then guess - 1
  else guess - 2

/-- The neighbour of the number on the grid of multiples of `10 ^ k` that rounds to
the number, if either does. -/
def neighbour? (m : Nat) (e k : Int) : Option Scaled :=
  let r := Binary64.ratio m e
  let n := r.1 * Nat.pow 10 (-k).toNat
  let d := r.2 * Nat.pow 10 k.toNat
  let q := n / d
  let low := roundsTo m e q k
  let high := roundsTo m e (q + 1) k
  match low, high with
  | true, true => some ⟨roundDiv .even n d, k⟩
  | true, false => some ⟨q, k⟩
  | false, true => some ⟨q + 1, k⟩
  | false, false => none

/-- Tries grids of `precision`, `precision + 1`, … digits. -/
def searchGrids (m : Nat) (e top : Int) : Nat → Nat → Scaled
  | _, 0 => ⟨0, 0⟩
  | precision, fuel + 1 =>
      match neighbour? m e (top - precision + 1) with
      | some s => s
      | none => searchGrids m e top (precision + 1) fuel

def Scaled.strip (s : Scaled) : Scaled :=
  if h : s.digits ≠ 0 ∧ s.digits % 10 = 0 then
    Scaled.strip ⟨s.digits / 10, s.exponent + 1⟩
  else s
termination_by s.digits
decreasing_by omega

/-- Shortest digits of the number with this mantissa and exponent. -/
def shortest (m : Nat) (e : Int) : Scaled :=
  if m = 0 then ⟨0, 0⟩
  else
    let r := Binary64.ratio m e
    (searchGrids m e (leadingExponent r.1 r.2) 1 17).strip

def zeros (n : Nat) : List Char := List.replicate n '0'

/-- Exponent mark, sign and at least two digits. -/
def exponentText (x : Int) : List Char :=
  let ds := (Nat.repr x.natAbs).toList
  'e' :: (if x < 0 then '-' else '+') :: (if ds.length < 2 then '0' :: ds else ds)

/-- Written form of significant digits, the point standing after `point` of them. -/
def placePoint (ds : List Char) (point : Int) : List Char :=
  if -4 < point ∧ point ≤ 16 then
    if point ≤ 0 then '0' :: '.' :: zeros (-point).toNat ++ ds
    else if (ds.length : Int) ≤ point then ds ++ zeros (point.toNat - ds.length) ++ ['.', '0']
    else ds.take point.toNat ++ '.' :: ds.drop point.toNat
  else
    match ds with
    | [] => []
    | [d] => d :: exponentText (point - 1)
    | d :: rest => d :: '.' :: rest ++ exponentText (point - 1)

def Scaled.text (s : Scaled) : List Char :=
  let ds := (Nat.repr s.digits).toList
  placePoint ds (ds.length + s.exponent)

def Binary64.text : Binary64 → String
  | .nan => "nan"
  | .infinite negative => if negative then "-inf" else "inf"
  | .finite negative m e =>
      let body := if m = 0 then ['0', '.', '0'] else (shortest m e).text
      String.ofList (if negative then '-' :: body else body)

end Vetting.Number
