import Vetting.Calendar.Written
import Vetting.Number.Decimal
import Vetting.Number.Places
import Vetting.Template.Layout
import Vetting.Text.Case
import Vetting.Value.Text

/-!
# Values laid out

How each kind of value is written in a layout: texts, integers in several bases,
binary and decimal numbers in positional and in exponent form. A layout that a kind
does not allow is a fault of its text. Without a layout every value is displayed.
-/
namespace Vetting.Template
open Text Number

/-! ## Texts -/

def layText (l : Layout) (s : List Char) : Except Fault (List Char) :=
  if l.form != some 's' || l.sign.isSome || l.plainZero || l.alternate || l.align == .inner then
    .error .badValue
  else
    .ok (l.pad (match l.precision with
      | some n => s.take n
      | none => s))

/-! ## Integers -/

def baseOf (form : Char) : Nat × List Char :=
  if form = 'b' then (2, ['0', 'b'])
  else if form = 'o' then (8, ['0', 'o'])
  else if form = 'x' then (16, ['0', 'x'])
  else if form = 'X' then (16, ['0', 'X'])
  else (10, [])

def capitals (s : List Char) : List Char := s.map upperAscii

/-- The character with a number. A half of a pair is none, and the sign for what cannot be shown
stands for it. -/
def charAt (n : Nat) : Char := if n.isValidChar then Char.ofNat n else Char.ofNat 0xFFFD

def layChar (l : Layout) (n : Int) : Except Fault (List Char) :=
  if l.sign.isSome || l.alternate then .error .badValue
  else if n < 0 ∨ 0x110000 ≤ n then .error .tooLarge
  else .ok (l.number false [] [] [charAt n.toNat] 3)

def layInteger (l : Layout) (n : Int) : Except Fault (List Char) :=
  let form := l.form.getD 'd'
  if l.precision.isSome || l.plainZero then .error .badValue
  else if form = 'c' then layChar l n
  else
    let base := baseOf form
    if base.1 = 10 ∧ intLimit ≤ n.natAbs then .error .badValue
    else
      let ds := Nat.toDigits base.1 n.natAbs
      .ok (l.number (n < 0) (if l.alternate then base.2 else [])
        (if form = 'X' then capitals ds else ds) [] (if base.1 = 10 then 3 else 4))

/-! ## Binary numbers -/

/-- The parts of a number: the digits before the point, and all that follows them. -/
abbrev Parts := List Char × List Char

/-- The point and the digits after it; a point alone only where it is asked for. -/
def fractionText (point : Bool) (ds : List Char) : List Char :=
  if ds.isEmpty then (if point then ['.'] else []) else '.' :: ds

/-- Digits with the point after `point` of them, filled up with zeros on both sides to
`places` digits after the point at least. -/
def positional (alternate : Bool) (ds : List Char) (point : Int) (places : Nat) : Parts :=
  let whole := if point ≤ 0 then ['0'] else ds.take point.toNat ++ zeros (point.toNat - ds.length)
  let fraction := zeros (-point).toNat ++ ds.drop point.toNat
  (whole, fractionText alternate (fraction ++ zeros (places - fraction.length)))

/-- The exponent of a binary number, with two digits at least. -/
def exponentMark (x : Int) : List Char :=
  'e' :: (if x < 0 then '-' else '+') :: digitField 2 x.natAbs

def scientific (alternate : Bool) (ds : List Char) (point : Int) (count : Nat) : Parts :=
  let all := ds ++ zeros (count - ds.length)
  (all.take 1, fractionText alternate (all.drop 1) ++ exponentMark (point - 1))

def significantDigits (n d count : Nat) : List Char × Int :=
  let s := toSignificant n d count
  let ds := (Nat.repr s.digits).toList
  (ds, if n = 0 then 1 else ds.length + s.exponent)

def dropZeros (ds : List Char) : List Char :=
  match (ds.reverse.dropWhile (· == '0')).reverse with
  | [] => ['0']
  | rest => rest

/-- Positional or with an exponent, whichever the size of the number suggests. `dotted`
asks for a digit after the point. -/
def generalParts (alternate dotted : Bool) (n d precision : Nat) : Parts :=
  let count := max precision 1
  let (all, point) := significantDigits n d count
  let ds := if alternate then all ++ zeros (count - all.length) else dropZeros all
  if point ≤ -4 ∨ (count : Int) - (if dotted then 1 else 0) < point then
    scientific alternate ds point 0
  else positional alternate ds point (if dotted then 1 else 0)

def fixedParts (alternate : Bool) (n d places : Nat) : Parts :=
  let ds := digitField (places + 1) (toPlaces n d places).digits
  (ds.take (ds.length - places), fractionText alternate (ds.drop (ds.length - places)))

def scientificParts (alternate : Bool) (n d places : Nat) : Parts :=
  let (ds, point) := significantDigits n d (places + 1)
  scientific alternate ds point (places + 1)

/-- The shortest digits, with a point in any case where it is asked for. -/
def shortestParts (alternate : Bool) (m : Nat) (e : Int) : Parts :=
  let text := if m = 0 then ['0', '.', '0'] else (shortest m e).text
  let after := text.dropWhile isAsciiDigit
  (text.takeWhile isAsciiDigit,
    if alternate && after.head? != some '.' then '.' :: after else after)

def finiteParts (l : Layout) (m : Nat) (e : Int) : Parts :=
  let r := Binary64.ratio m e
  let precision := l.precision.getD 6
  match l.form with
  | none =>
      match l.precision with
      | none => shortestParts l.alternate m e
      | some p => generalParts l.alternate true r.1 r.2 p
  | some c =>
      if c = 'e' ∨ c = 'E' then scientificParts l.alternate r.1 r.2 precision
      else if c = 'f' ∨ c = 'F' ∨ c = '%' then fixedParts l.alternate r.1 r.2 precision
      else generalParts l.alternate false r.1 r.2 precision

def isFloatForm (c : Char) : Bool :=
  c = 'e' || c = 'E' || c = 'f' || c = 'F' || c = 'g' || c = 'G' || c = 'n' || c = '%'

def precisionLimit : Nat := Nat.pow 2 31

def hundredfold : Binary64 → Binary64
  | .finite negative m e => let r := Binary64.ratio m e; .ofRatio negative (r.1 * 100) r.2
  | x => x

def layFloat (l : Layout) (x : Binary64) : Except Fault (List Char) :=
  if !(l.form.all isFloatForm) || precisionLimit ≤ l.precision.getD 0 then .error .badValue
  else
    let percent : List Char := if l.form = some '%' then ['%'] else []
    let raised := (l.form.getD ' ').isUpper
    let write (negative : Bool) (parts : Parts) : List Char :=
      let after := (if raised then capitals parts.2 else parts.2) ++ percent
      l.number negative [] parts.1 after 3
    .ok (match if l.form = some '%' then hundredfold x else x with
      | .nan => write false ([], "nan".toList)
      | .infinite negative => write negative ([], "inf".toList)
      | .finite negative m e =>
          let parts := finiteParts l m e
          let isZero := (parts.1 ++ parts.2.takeWhile (· != 'e')).all fun c => c == '0' || c == '.'
          write (negative && !(l.plainZero && isZero)) parts)

/-! ## Decimal numbers -/

/-- The exponent of a decimal number, with as many digits as it has. -/
def decimalMark (x : Int) : List Char :=
  'E' :: (if x < 0 then '-' else '+') :: (Nat.repr x.natAbs).toList

def roundCoefficient (c : Nat) (e : Int) (count : Nat) : Nat × Int :=
  let n := digitCount c
  if n ≤ count then (c, e)
  else
    let r := roundDiv .even c (Nat.pow 10 (n - count))
    let e := e + (n - count : Nat)
    if digitCount r = count then (r, e) else (r / 10, e + 1)

/-- Puts the point of a coefficient where its exponent says. -/
def decimalFixed (c : Nat) (e : Int) : Parts :=
  if 0 ≤ e then ((Nat.repr (c * Nat.pow 10 e.toNat)).toList, [])
  else
    let ds := digitField ((-e).toNat + 1) c
    (ds.take (ds.length - (-e).toNat), fractionText false (ds.drop (ds.length - (-e).toNat)))

def decimalScientific (c : Nat) (e : Int) : Parts :=
  let ds := (Nat.repr c).toList
  (ds.take 1, fractionText false (ds.drop 1) ++ decimalMark (e + ds.length - 1))

def decimalParts (l : Layout) (c : Nat) (e : Int) : Parts :=
  match (l.form.getD 'G').toLower with
  | 'e' =>
      match l.precision with
      | some p =>
          if c = 0 then
            (['0'], fractionText false (zeros p) ++ decimalMark (e + p))
          else
            let r := roundCoefficient c e (p + 1)
            let n := digitCount r.1
            decimalScientific (r.1 * Nat.pow 10 (p + 1 - n)) (r.2 - ((p + 1 - n : Nat) : Int))
      | none => decimalScientific c e
  | 'g' =>
      let r : Nat × Int := match l.precision with
        | some p => roundCoefficient c e (max p 1)
        | none => (c, e)
      let lead : Int := r.2 + (digitCount r.1 : Int) - 1
      if r.2 ≤ 0 ∧ -6 ≤ lead then decimalFixed r.1 r.2 else decimalScientific r.1 r.2
  | f =>
      let e := if f = '%' then e + 2 else e
      match l.precision with
      | some p =>
          let k : Int := -p
          let r := if k ≤ e then c * Nat.pow 10 (e - k).toNat
            else roundDiv .even c (Nat.pow 10 (k - e).toNat)
          decimalFixed r k
      | none => if c = 0 ∧ 0 < e then decimalFixed 0 0 else decimalFixed c e

def isDecimalForm (c : Char) : Bool :=
  c = 'e' || c = 'E' || c = 'f' || c = 'F' || c = 'g' || c = 'G' || c = 'n' || c = '%'

def layDecimal (l : Layout) (d : Decimal) : Except Fault (List Char) :=
  if !(l.form.all isDecimalForm) || l.alternate || l.separator == some '_' then .error .badValue
  else
    let small := l.form = some 'e' ∨ l.form = some 'g'
    let percent : List Char := if l.form = some '%' then ['%'] else []
    let write (l : Layout) (negative : Bool) (parts : Parts) : List Char :=
      let after := (if small then parts.2.map lowerAscii else parts.2) ++ percent
      l.number negative [] parts.1 after 3
    match d with
    | .finite negative c e =>
        let parts := decimalParts l c e
        let isZero := (parts.1 ++ parts.2.takeWhile (· != 'E')).all fun c => c == '0' || c == '.'
        .ok (write l (negative && !(l.plainZero && isZero)) parts)
    | d =>
        let text := d.text.toList
        let negative := text.head? == some '-'
        let body := if negative then text.tail else text
        .ok (write { l with fill := ' ', align := .right } negative ([], body))

/-! ## Values -/

/-- The text of a value in the layout with the given text. -/
def layOut (v : Value) (spec : List Char) : Except Fault (List Char) := do
  if spec.isEmpty then .ok (← v.display).toList
  else
    let integer (n : Int) : Except Fault (List Char) := do
      let l ← Layout.read .right (some 'd') spec
      match l.form with
      | some c =>
          if ['b', 'c', 'd', 'o', 'x', 'X', 'n'].contains c then layInteger l n
          else if isFloatForm c then
            match Binary64.ofInt n with
            | .infinite _ => .error .tooLarge
            | x => layFloat l x
          else .error .badValue
      | none => layInteger l n
    match v with
    | .text s => do layText (← Layout.read .left (some 's') spec) s.toList
    | .bool b => integer (if b then 1 else 0)
    | .int n => integer n
    | .float x => do layFloat (← Layout.read .right none spec) x
    | .decimal d => do layDecimal (← Layout.read .right none spec) d
    | .date d => .ok (d.midnight.laidOut spec)
    | .moment t => .ok (t.laidOut spec)
    | _ => .error .wrongKind

end Vetting.Template
