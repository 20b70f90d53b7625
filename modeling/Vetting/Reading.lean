import Vetting.Number.Reading
import Vetting.Text.Case
import Vetting.Value.Order
import Vetting.Value.Text

/-!
# Loose readings of values

Arguments of rules are texts and values can be anything, so rules read both in one
forgiving way: as text, as a number, as a truth value or as a length. A reading
that has no answer is none; a reading that fails does so only on numbers that are
too large for the form wanted, and on a signalling NaN.
-/
namespace Vetting
open Number Text

namespace Value

/-- Text of a value: nothing for null and for no, `1` for yes, and integral numbers
without their point. -/
def toText : Value → Except Fault String
  | .null => .ok ""
  | .bool b => .ok (if b then "1" else "")
  | .float x => if x.isInteger then intText x.floor else .ok x.text
  | v => v.display

def isNumeric : Value → Bool
  | .int _ => true
  | .float _ => true
  | .decimal _ => true
  | .text s => (Numeral.ofText? s.toList).isSome
  | _ => false

/-- The number a decimal stands for when it is compared. -/
def decimalNumber (d : Decimal) : Except Fault Number :=
  match d.toBinary64? with
  | some x => .ok (.binary x)
  | none => .error .badValue

/-- The integer a numeral spells when it spells one, and otherwise the nearest
binary number. -/
def numeralNumber (n : Numeral) : Number :=
  match n.toInt? with
  | some i => .int i
  | none => .binary n.toBinary64

/-- The number a value is or spells. Truth values are not numbers here. -/
def toNumber : Value → Except Fault (Option Number)
  | .int n => .ok (some (.int n))
  | .float x => .ok (some (.binary x))
  | .decimal d => (decimalNumber d).map some
  | .text s => .ok ((Numeral.ofText? s.toList).map numeralNumber)
  | _ => .ok none

/-- An integer as a binary number, unless it is too large. -/
def intFloat (n : Int) : Except Fault Binary64 :=
  match Binary64.ofInt n with
  | .infinite _ => .error .tooLarge
  | x => .ok x

/-- The number at the front of a text, zero when there is none. The blanks before the
number have to be blanks for a number's own reader. -/
def leadingFloat (s : List Char) : Except Fault Binary64 :=
  match Numeral.scan (trimStart s) with
  | none => .ok (Binary64.zero false)
  | some (n, _) =>
      if (s.takeWhile isBlank).all isNumberBlank then .ok n.toBinary64 else .error .badValue

def toFloat : Value → Except Fault Binary64
  | .bool b => .ok (Binary64.ofInt (if b then 1 else 0))
  | .int n => intFloat n
  | .float x => .ok x
  | .decimal d =>
      match d.toBinary64? with
      | some x => .ok x
      | none => .error .badValue
  | v => do leadingFloat (← v.toText).toList

/-- The decimal with the shortest digits of the binary number read from a value. -/
def toDecimal (v : Value) : Except Fault Decimal := v.toFloat.map Decimal.ofShortest

/-- The integer that a value is or spells; none when it is not integral. An integer
that was spelled has to be within the range of binary numbers. -/
def toInt : Value → Except Fault (Option Int)
  | .bool _ => .ok none
  | .int n => .ok (some n)
  | v => do
      match ← v.toNumber with
      | none => .ok none
      | some (.int n) => (intFloat n).map fun _ => some n
      | some (.binary x) => .ok (if x.isInteger then some x.floor else none)
      | some (.decimal _) => .ok none

def yesTexts : List String := ["true", "1", "yes", "on"]

def noTexts : List String := ["false", "0", "no", "off", ""]

/-- The truth value a text spells. -/
def spelledBool (s : String) : Option Bool :=
  let t := String.ofList (lower (trim s.toList))
  if yesTexts.contains t then some true
  else if noTexts.contains t then some false
  else none

/-- A truth value as settings and arguments spell it, else whether there is anything. -/
def toBool : Value → Bool
  | .text s => (spelledBool s).getD (!s.isEmpty)
  | v => v.truth

def length : Value → Except Fault Nat
  | .null => .ok 0
  | .text s => .ok s.length
  | .bytes bs => .ok bs.length
  | .list xs => .ok xs.length
  | .tuple xs => .ok xs.length
  | .set xs => .ok xs.length
  | .dict es => .ok es.length
  | v => v.toText.map String.length

def ofNumber : Number → Value
  | .int n => .int n
  | .binary x => .float x
  | .decimal d => .decimal d

def numericPair (v w : Value) : Except Fault (Option (Number × Number)) := do
  let a ← v.toNumber
  let b ← w.toNumber
  match a, b with
  | some a, some b => .ok (some (a, b))
  | _, _ => .ok none

/-- Equality under which texts of numbers equal the numbers they spell, and null
equals the empty text. -/
def looseEqual (v w : Value) : Except Fault Bool := do
  match ← numericPair v w with
  | some (a, b) => (ofNumber a).equal (ofNumber b)
  | none =>
      match v, w with
      | .null, .text s => .ok s.isEmpty
      | .text s, .null => .ok s.isEmpty
      | _, _ => v.equal w

/-- Three-way comparison of values taken as they are; none without an order. -/
def strictCompare (v w : Value) : Except Fault (Option Int) := do
  match ← v.precedes w with
  | none => .ok none
  | some true => .ok (some (-1))
  | some false =>
      match ← w.precedes v with
      | none => .ok none
      | some true => .ok (some 1)
      | some false => .ok (some 0)

/-- Three-way comparison in which texts of numbers count as the numbers they spell. -/
def looseCompare (v w : Value) : Except Fault (Option Int) := do
  match ← numericPair v w with
  | some (a, b) => strictCompare (ofNumber a) (ofNumber b)
  | none => strictCompare v w

end Value

end Vetting
