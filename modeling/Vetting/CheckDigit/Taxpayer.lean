import Vetting.Fault
import Vetting.Text.Digit

/-!
# Check digits of taxpayer numbers

Both kinds of Brazilian taxpayer number end in two check digits, each a weighted sum
of the digits before it modulo eleven. The person's number has nine digits before
them and falling weights; the company's has twelve, with weights that count down to
two and start again at nine.

A number is read from any text by keeping its ASCII digits and filling up with zeros
on the left. Numbers that repeat one digit are refused.
-/
namespace Vetting.CheckDigit
open Text

def digitAt (c : Char) : Except Fault Nat :=
  match digitValue? c with
  | some d => .ok d
  | none => .error .badValue

/-- Sum of the first `count` digits, weighted `count + 1`, `count` and so on down to 2. -/
def fallingSum : Nat → List Char → Except Fault Nat
  | 0, _ => .ok 0
  | _ + 1, [] => .error .outOfRange
  | count + 1, c :: rest => do
      let d ← digitAt c
      let sum ← fallingSum count rest
      .ok (d * (count + 2) + sum)

def elevenDigit (weighted : Nat) : Nat := 10 * weighted % 11 % 10

/-- What follows the first nine digits once both check digits have been appended. -/
def personDigits (base : List Char) : Except Fault (List Char) := do
  let first ← fallingSum 9 base
  let once := base ++ [digitChar (elevenDigit first)]
  let second ← fallingSum 10 once
  .ok ((once ++ [digitChar (elevenDigit second)]).drop 9)

/-- Sum of digits under weights that count down to two and start again at nine. -/
def cyclingSum : Nat → List Char → Except Fault Nat
  | _, [] => .ok 0
  | weight, c :: rest => do
      let d ← digitAt c
      let sum ← cyclingSum (if weight = 2 then 9 else weight - 1) rest
      .ok (d * weight + sum)

def companyDigit (digits : List Char) (weight : Nat) : Except Fault Nat := do
  let remainder := (← cyclingSum weight digits) % 11
  .ok (if remainder < 2 then 0 else 11 - remainder)

/-- The two check digits after the first twelve digits. -/
def companyDigits (base : List Char) : Except Fault (List Char) := do
  let body := base.take 12
  let first ← companyDigit body 5
  let second ← companyDigit (body ++ (Nat.repr first).toList) 6
  .ok ((Nat.repr first).toList ++ (Nat.repr second).toList)

/-- The ASCII digits of a text, filled up with zeros to `size`; none when there are
more, or when all are the same. -/
def paddedDigits? (size : Nat) (s : List Char) : Option (List Char) :=
  let ds := s.filter isAsciiDigit
  let raw := List.replicate (size - ds.length) '0' ++ ds
  if raw.length = size ∧ raw.any (· != raw.headD '0') then some raw else none

/-- A number of `size` digits read from a text, of which those behind the first `body` have to
be the ones that `checks` gives for these. -/
def verified? (size body : Nat) (checks : List Char → Except Fault (List Char))
    (s : List Char) : Option (List Char) :=
  match paddedDigits? size s with
  | none => none
  | some raw =>
      match checks (raw.take body) with
      | .ok ds => if ds = raw.drop body then some raw else none
      | .error _ => none

def person? (s : List Char) : Option (List Char) := verified? 11 9 personDigits s

def company? (s : List Char) : Option (List Char) := verified? 14 12 companyDigits s

def slice (s : List Char) (i j : Nat) : List Char := (s.drop i).take (j - i)

def formatPerson (s : List Char) : List Char :=
  slice s 0 3 ++ '.' :: slice s 3 6 ++ '.' :: slice s 6 9 ++ '-' :: slice s 9 11

def formatCompany (s : List Char) : List Char :=
  slice s 0 2 ++ '.' :: slice s 2 5 ++ '.' :: slice s 5 8 ++ '/' :: slice s 8 12 ++
    '-' :: slice s 12 14

end Vetting.CheckDigit
