import Vetting.Text.Digit

/-!
# The mod 10 check of card numbers

Reading from the right, every second digit is doubled and nine is taken off what
exceeds nine; the sum has to be a multiple of ten. A card number is a text of digits
and spaces with 8 to 19 digits that pass.
-/
namespace Vetting.CheckDigit
open Text

def doubled (d : Nat) : Nat := if 9 < 2 * d then 2 * d - 9 else 2 * d

/-- Weighted sum of digits given from the right, the first of them doubled or not. -/
def luhnSum : Bool → List Nat → Nat
  | _, [] => 0
  | twice, d :: rest => (if twice then doubled d else d) + luhnSum (!twice) rest

def asciiValue (c : Char) : Nat := c.toNat - 48

def isAsciiDigits (s : List Char) : Bool := !s.isEmpty && s.all isAsciiDigit

def luhn (s : List Char) : Bool :=
  isAsciiDigits s && luhnSum false (s.reverse.map asciiValue) % 10 == 0

def withoutSpaces (s : List Char) : List Char := s.filter (· != ' ')

/-- The digits of a card number; none when the text is not one. -/
def cardNumber? (s : List Char) : Option (List Char) :=
  let ds := withoutSpaces s
  if isAsciiDigits ds && 8 ≤ ds.length && ds.length ≤ 19 && luhn ds then some ds else none

theorem luhnSum_append (twice : Bool) (ds es : List Nat) :
    luhnSum twice (ds ++ es) =
      luhnSum twice ds + luhnSum (if ds.length % 2 = 0 then twice else !twice) es := by
  induction ds generalizing twice with
  | nil => simp [luhnSum]
  | cons d ds ih =>
      simp only [List.cons_append,luhnSum,ih,List.length_cons,Nat.add_assoc]
      congr 2
      rcases Nat.mod_two_eq_zero_or_one ds.length with h | h
      · have h' : (ds.length + 1) % 2 = 1 := by omega
        simp [h,h']
      · have h' : (ds.length + 1) % 2 = 0 := by omega
        simp [h,h']

end Vetting.CheckDigit
