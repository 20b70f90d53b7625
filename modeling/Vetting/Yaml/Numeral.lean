import Vetting.Number.Arithmetic
import Vetting.Number.Reading
import Vetting.Pattern.Token
import Vetting.Fault
import Vetting.Text.Case
import Vetting.Text.Split

/-!
# Numbers in scalars

Integers are written in base two, eight, ten or sixteen, and integers and binary numbers
also in base sixty, with colons between the digits. Low lines between digits mean
nothing.
-/
namespace Vetting.Yaml
open Number Text

def withoutLowLines (s : List Char) : List Char := s.filter (· != '_')

/-- A sign, which needs something to stand in front of. -/
def signOf (s : List Char) : Except Fault (Bool × List Char) :=
  if s.isEmpty then .error .outOfRange else .ok (takeSign s)

def digitIn? (base : Nat) (c : Char) : Option Nat :=
  ((digitValue? c).or (if Pattern.isHexDigit c then some (Pattern.hexDigitValue c) else none)).filter
    (· < base)

def readBase? (base : Nat) (s : List Char) : Option Nat :=
  if s.isEmpty then none
  else (s.mapM (digitIn? base)).map fun ds => ds.foldl (fun n d => n * base + d) 0

/-- An octal number, with or without the letter that can stand behind its zero. -/
def readOctal? (s : List Char) : Option Nat :=
  match trimNumber s with
  | '0' :: c :: rest => if c = 'o' || c = 'O' then readBase? 8 rest else readBase? 8 (c :: rest)
  | t => readBase? 8 t

def sexagesimal (ds : List Int) : Int := ds.foldl (fun n d => n * 60 + d) 0

def intSize? : List Char → Option Int
  | ['0'] => some 0
  | '0' :: 'b' :: rest => (readBase? 2 (trimNumber rest)).map Int.ofNat
  | '0' :: 'x' :: rest => (readBase? 16 (trimNumber rest)).map Int.ofNat
  | '0' :: rest => (readOctal? ('0' :: rest)).map Int.ofNat
  | s =>
      if s.contains ':' then ((split ':' s).mapM readInt?).map sexagesimal
      else readInt? s

def intOf (text : List Char) : Except Fault Int := do
  let (negative, s) ← signOf (withoutLowLines text)
  if s.isEmpty then .error .outOfRange
  else match intSize? s with
    | some n => .ok (if negative then -n else n)
    | none => .error .badValue

/-- The value of digits in base sixty, the last digit first. Every product and every sum
is rounded. -/
def roundedSexagesimal (ds : List Binary64) : Binary64 :=
  (ds.foldl (fun (acc : Binary64 × Int) d =>
    (acc.1.plus (d.times (.ofInt acc.2)), acc.2 * 60)) (.zero false, 1)).1

/-- The size of a binary number in small letters, from behind its sign. -/
def floatSize? (s : List Char) : Option Binary64 :=
  if s = ['.', 'i', 'n', 'f'] then some (.infinite false)
  else if s = ['.', 'n', 'a', 'n'] then some .nan
  else if s.contains ':' then
    ((split ':' s).mapM readBinary64?).map fun ds => roundedSexagesimal ds.reverse
  else readBinary64? s

def floatOf (text : List Char) : Except Fault Binary64 := do
  let (negative, s) ← signOf (lower (withoutLowLines text))
  match floatSize? s with
  | some x => .ok (if negative then x.negate else x)
  | none => .error .badValue

end Vetting.Yaml
