/-!
# Bytes in sixty-four characters

Four characters spell three bytes, and equals signs fill up the last four. The reader
passes over all other characters. It ends where the last four are filled up, and there
must be no characters left over otherwise.
-/
namespace Vetting.Text.Base64

def bits? (c : Char) : Option Nat :=
  if 'A' ≤ c ∧ c ≤ 'Z' then some (c.toNat - 65)
  else if 'a' ≤ c ∧ c ≤ 'z' then some (c.toNat - 71)
  else if '0' ≤ c ∧ c ≤ '9' then some (c.toNat + 4)
  else if c = '+' then some 62
  else if c = '/' then some 63
  else none

/-- What is open between two bytes: how many characters of the four have come, the bits
they left over, and how many equals signs have come right before. -/
structure Open where
  count : Nat
  bits : Nat
  signs : Nat

def Open.empty : Open := ⟨0, 0, 0⟩

def Open.isFilled (o : Open) : Bool := 2 ≤ o.count && 4 ≤ o.count + o.signs

/-- An equals sign counts from the third place on. -/
def Open.sign (o : Open) : Open := if 2 ≤ o.count then { o with signs := o.signs + 1 } else o

/-- Takes six bits, and gives a byte if there are enough. -/
def Open.take (o : Open) (six : Nat) : List UInt8 × Open :=
  let kept := 6 - 2 * o.count
  let whole := o.bits * 64 + six
  if o.count = 0 then ([], ⟨1, six, 0⟩)
  else ([UInt8.ofNat (whole / Nat.pow 2 kept)], ⟨(o.count + 1) % 4, whole % Nat.pow 2 kept, 0⟩)

/-- Reads from the middle of four characters. -/
def decodeFrom : Open → List Char → Option (List UInt8)
  | o, [] => if o.count = 0 then some [] else none
  | o, c :: rest =>
      if c = '=' then
        if o.sign.isFilled then some [] else decodeFrom o.sign rest
      else match bits? c with
        | some six => (decodeFrom (o.take six).2 rest).map ((o.take six).1 ++ ·)
        | none => decodeFrom o rest

def decode? (s : List Char) : Option (List UInt8) := decodeFrom .empty s

end Vetting.Text.Base64
