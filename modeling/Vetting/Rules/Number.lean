import Vetting.Rules.Json
import Vetting.Rules.Length
import Vetting.Text.Split

/-!
# Rules that make numbers

Rounding works on the decimal with the shortest digits of the number, so that 2.675
rounds to 2.68 and not to what its binary form is nearest to; the result is a binary
number again. Infinities and NaN pass through. `asDecimal` only normalises the
separators of a text that has the form of a decimal number.
-/
namespace Vetting.Rules
open Vetting.Number Vetting.Text

def tieOf? (mode : String) : Option Tie :=
  let m := String.ofList (lower mode.toList)
  if m = "1" ∨ m = "half_up" then some .up
  else if m = "2" ∨ m = "half_down" then some .down
  else if m = "3" ∨ m = "half_even" then some .even
  else none

/-- Largest number of places that can be asked for, in either direction. -/
def placesLimit : Nat := 2000054

/-- The exponent of a unit in the last of some places, as far as decimals have one. -/
def unitExponent (places : Int) : Except Fault Int :=
  if placesLimit < places.natAbs then .error .noResult
  else if places < -Decimal.largestExponent then .error .exponentRange
  else .ok (max (-places) (-1000026))

/-- Digits that a number rounded to some places may need, at least 28. -/
def roundingPrecision (d : Decimal) (places : Int) : Nat :=
  (max 28 (d.adjusted + places + 1)).toNat

def binaryOf (d : Decimal) : Except Fault Binary64 :=
  match d.toBinary64? with
  | some x => .ok x
  | none => .error .badValue

def roundDecimal (tie : Tie) (places : Int) (d : Decimal) : Except Fault Binary64 := do
  if d.isFinite then
    let e ← unitExponent places
    match d.quantize tie (roundingPrecision d places) e with
    | some r => binaryOf r
    | none => .error .noResult
  else binaryOf d

def asRound : Rule where
  label := "asRound"
  signature := { parameters :=
    [⟨"precision", some (.int 0), false⟩, ⟨"mode", some (.text "half_up"), false⟩] }
  run v b := match b.given with
    | [precision, mode] => do
        let places ← intArgument "asRound" precision
        let name ← orFail mode.display
        match tieOf? name with
        | none => .error (.refuseRounding mode)
        | some tie => do
            let d ← orFail v.toDecimal
            .ok (.replaced (.float (← orFail (roundDecimal tie places d))))
    | _ => misbound

/-- A rule that takes a number to an integer, kept as a binary number. -/
def integralRule (name : String) (f : Binary64 → Int) : Rule where
  label := name
  signature := {}
  run v b := match b.given with
    | [] => do
        let x ← orFail v.toFloat
        .ok (.replaced (.float (if x.isFinite then .ofInt (f x) else x)))
    | _ => misbound

def asFloor : Rule := integralRule "asFloor" Binary64.floor

def asCeil : Rule := integralRule "asCeil" Binary64.ceil

/-- Digits with at most one point among or before them. -/
def isDecimalText (s : List Char) : Bool :=
  let rest := s.dropWhile isAsciiDigit
  match rest with
  | [] => !s.isEmpty
  | '.' :: fraction => !fraction.isEmpty && fraction.all isAsciiDigit
  | _ => false

/-- Puts a point in the place of every separator, one separator after the other. -/
def pointed : List Value → List Char → Except Fault (List Char)
  | [], s => .ok s
  | .text symbol :: rest, s => pointed rest (replaceAll symbol.toList ['.'] s)
  | _ :: _, _ => .error .wrongKind

def asDecimal : Rule where
  label := "asDecimal"
  signature := { variadic := true }
  run v b := do
    let s ← orFail v.toText
    let symbols := if b.rest.isEmpty then [.text ",", .text "."] else b.rest
    let t ← orFail (pointed symbols s.toList)
    if isDecimalText t then .ok (.replaced (.text (String.ofList t)))
    else .ok (failedUnder "asDecimal")

end Vetting.Rules
