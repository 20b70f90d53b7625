import Vetting.Number.Decimal
import Vetting.Text.Blank
import Vetting.Text.Digit

/-!
# Numbers in text

A numeral is an optional sign, digits with at most one point among or before them,
and an optional exponent. `Numeral.scan` takes the longest numeral a text starts
with; blanks around numerals are the business of the two readers built on it.

The integer reader is a different grammar: it allows single low lines between
digits and refuses more than 4300 digits.
-/
namespace Vetting.Number
open Vetting.Text

/-- Most digits an integer is read from or written with. -/
def digitLimit : Nat := 4300

/-- A numeral as written, each part a list of digit values. -/
structure Numeral where
  negative : Bool
  whole : List Nat
  fraction : Option (List Nat)
  exponent : Option (Bool × List Nat)
  deriving DecidableEq, Repr

def takeSign : List Char → Bool × List Char
  | '-' :: rest => (true, rest)
  | '+' :: rest => (false, rest)
  | s => (false, s)

def takeDigits (s : List Char) : List Nat × List Char :=
  (digitValues (s.takeWhile isDecimal), s.dropWhile isDecimal)

/-- An exponent needs at least one digit; without one nothing is taken. -/
def takeExponent (s : List Char) : Option (Bool × List Nat) × List Char :=
  match s with
  | c :: rest =>
      if c = 'e' ∨ c = 'E' then
        let sign := takeSign rest
        match takeDigits sign.2 with
        | ([], _) => (none, s)
        | (ds, left) => (some (sign.1, ds), left)
      else (none, s)
  | [] => (none, [])

/-- Digits, then a point with or without digits after it; or a point with digits. -/
def takeSignificand (s : List Char) : Option ((List Nat × Option (List Nat)) × List Char) :=
  match takeDigits s with
  | ([], '.' :: rest) =>
      match takeDigits rest with
      | ([], _) => none
      | (ds, left) => some (([], some ds), left)
  | ([], _) => none
  | (ds, '.' :: rest) => let r := takeDigits rest; some ((ds, some r.1), r.2)
  | (ds, left) => some ((ds, none), left)

/-- The longest numeral at the front of a text, and what follows it. -/
def Numeral.scan (s : List Char) : Option (Numeral × List Char) :=
  let sign := takeSign s
  match takeSignificand sign.2 with
  | none => none
  | some ((whole, fraction), rest) =>
      let e := takeExponent rest
      some (⟨sign.1, whole, fraction, e.1⟩, e.2)

/-- The numeral that a text spells, blanks around it allowed. -/
def Numeral.ofText? (s : List Char) : Option Numeral :=
  match Numeral.scan (trimStart s) with
  | some (n, rest) => if rest.all isBlank then some n else none
  | none => none

def signed (negative : Bool) (n : Nat) : Int := if negative then -(n : Int) else n

def Numeral.power (n : Numeral) : Int :=
  match n.exponent with
  | some (negative, ds) => signed negative (ofDigits ds)
  | none => 0

def Numeral.coefficient (n : Numeral) : Nat := ofDigits (n.whole ++ n.fraction.getD [])

def Numeral.toBinary64 (n : Numeral) : Binary64 :=
  Binary64.ofScaled n.negative n.coefficient (n.power - (n.fraction.getD []).length)

def Numeral.toDecimal (n : Numeral) : Decimal :=
  .finite n.negative n.coefficient (n.power - (n.fraction.getD []).length)

/-- The integer a numeral without point and exponent spells, within the limit. -/
def Numeral.toInt? (n : Numeral) : Option Int :=
  match n.fraction, n.exponent with
  | none, none =>
      if n.whole.length ≤ digitLimit then some (signed n.negative (ofDigits n.whole)) else none
  | _, _ => none

/-- Digit values of digits with single low lines between them. -/
def digitsWithLowLines : List Char → Option (List Nat)
  | [] => none
  | [c] => (digitValue? c).map fun d => [d]
  | c :: '_' :: rest =>
      match digitValue? c with
      | some d => (digitsWithLowLines rest).map (d :: ·)
      | none => none
  | c :: rest =>
      match digitValue? c with
      | some d => (digitsWithLowLines rest).map (d :: ·)
      | none => none

/-- Blanks off both ends, as the integer reader counts blanks. -/
def trimNumber (s : List Char) : List Char :=
  ((s.dropWhile isNumberBlank).reverse.dropWhile isNumberBlank).reverse

def readInt? (s : List Char) : Option Int :=
  let sign := takeSign (trimNumber s)
  match digitsWithLowLines sign.2 with
  | some ds => if ds.length ≤ digitLimit then some (signed sign.1 (ofDigits ds)) else none
  | none => none

/-- The decimal a text spells: a numeral, an infinity or a NaN with its payload. -/
def readDecimal? (s : List Char) : Option Decimal :=
  let t := trim s
  match Numeral.scan t with
  | some (n, []) => some n.toDecimal
  | some _ => none
  | none =>
      let sign := takeSign t
      let payload (rest : List Char) : Option Nat :=
        if rest.all isDecimal then some (ofDigits (digitValues rest)) else none
      match (sign.2.map fun c => if 'A' ≤ c ∧ c ≤ 'Z' then Char.ofNat (c.toNat + 32) else c) with
      | ['i', 'n', 'f'] => some (.infinite sign.1)
      | ['i', 'n', 'f', 'i', 'n', 'i', 't', 'y'] => some (.infinite sign.1)
      | 'n' :: 'a' :: 'n' :: rest => (payload rest).map (.quietNaN sign.1)
      | 's' :: 'n' :: 'a' :: 'n' :: rest => (payload rest).map (.signalNaN sign.1)
      | _ => none

/-- The binary number a text spells, infinities and NaN by name included. -/
def readBinary64? (s : List Char) : Option Binary64 :=
  let t := trimNumber s
  match Numeral.scan t with
  | some (n, []) => some n.toBinary64
  | some _ => none
  | none =>
      let sign := takeSign t
      match (sign.2.map fun c => if 'A' ≤ c ∧ c ≤ 'Z' then Char.ofNat (c.toNat + 32) else c) with
      | ['i', 'n', 'f'] => some (.infinite sign.1)
      | ['i', 'n', 'f', 'i', 'n', 'i', 't', 'y'] => some (.infinite sign.1)
      | ['n', 'a', 'n'] => some .nan
      | _ => none

end Vetting.Number
