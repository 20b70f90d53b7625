import Vetting.Fault
import Vetting.Text.Digit

/-!
# Layouts of fields

A layout says how the text of a field is written: fill and alignment, sign, width,
grouping of digits, precision and form. It is read from the text after the colon of a
field; what is left out has defaults that depend on the value to be written.
-/
namespace Vetting.Template
open Text

inductive Align where
  | left | right | center
  /-- Filled between the sign and the digits. -/
  | inner
  deriving DecidableEq, Repr

structure Layout where
  fill : Char
  align : Align
  sign : Option Char
  /-- Whether a negative number that rounds to zero loses its sign. -/
  plainZero : Bool
  alternate : Bool
  width : Nat
  separator : Option Char
  precision : Option Nat
  form : Option Char
  deriving DecidableEq, Repr

def alignOf? (c : Char) : Option Align :=
  if c = '<' then some .left
  else if c = '>' then some .right
  else if c = '^' then some .center
  else if c = '=' then some .inner
  else none

def takeAlign : List Char → Option Char × Option Align × List Char
  | c :: d :: rest =>
      match alignOf? d, alignOf? c with
      | some a, _ => (some c, some a, rest)
      | none, some a => (none, some a, d :: rest)
      | none, none => (none, none, c :: d :: rest)
  | [c] =>
      match alignOf? c with
      | some a => (none, some a, [])
      | none => (none, none, [c])
  | [] => (none, none, [])

def takeSignMark : List Char → Option Char × List Char
  | c :: rest => if c = '+' ∨ c = '-' ∨ c = ' ' then (some c, rest) else (none, c :: rest)
  | [] => (none, [])

def takeMark (mark : Char) : List Char → Bool × List Char
  | c :: rest => if c = mark then (true, rest) else (false, c :: rest)
  | [] => (false, [])

/-- One more than the largest size that can be asked for. -/
def sizeLimit : Nat := Nat.pow 2 63

def takeSize (s : List Char) : Except Fault (Option Nat × List Char) :=
  match digitValues (s.takeWhile isDecimal) with
  | [] => .ok (none, s)
  | ds =>
      if ofDigits ds < sizeLimit then .ok (some (ofDigits ds), s.dropWhile isDecimal)
      else .error .badValue

/-- A separator of groups of digits; the two kinds exclude each other. -/
def takeSeparator (s : List Char) : Except Fault (Option Char × List Char) :=
  let comma := takeMark ',' s
  let line := takeMark '_' comma.2
  match comma.1, line.1, line.2 with
  | true, true, _ => .error .badValue
  | false, true, ',' :: _ => .error .badValue
  | true, false, rest => .ok (some ',', rest)
  | false, true, rest => .ok (some '_', rest)
  | false, false, rest => .ok (none, rest)

def takePrecision (s : List Char) : Except Fault (Option Nat × List Char) :=
  match s with
  | '.' :: rest =>
      match takeSize rest with
      | .ok (some n, left) => .ok (some n, left)
      | _ => .error .badValue
  | _ => .ok (none, s)

def allowsSeparator (separator : Char) (form : Option Char) : Bool :=
  match form with
  | none => true
  | some c =>
      ['d', 'e', 'f', 'g', 'E', 'G', '%', 'F'].contains c ||
        (separator = '_' && ['b', 'o', 'x', 'X'].contains c)

/-- Reads a layout, given the alignment and the form that hold when none is given. -/
def Layout.read (align : Align) (form : Option Char) (s : List Char) :
    Except Fault Layout := do
  let (fill, given, s) := takeAlign s
  let (sign, s) := takeSignMark s
  let (plainZero, s) := takeMark 'z' s
  let (alternate, s) := takeMark '#' s
  let (zero, s) := if fill.isSome then (false, s) else takeMark '0' s
  let (width, s) ← takeSize s
  let (separator, s) ← takeSeparator s
  let (precision, s) ← takePrecision s
  let form ← match s with
    | [] => .ok form
    | [c] => .ok (some c)
    | _ => .error .badValue
  let usual := if zero && align == .right then .inner else align
  match separator with
  | some c => if allowsSeparator c form then pure () else .error .badValue
  | none => pure ()
  .ok
    { fill := if zero then '0' else fill.getD ' '
      align := given.getD usual
      sign, plainZero, alternate, width := width.getD 0, separator, precision, form }

def Layout.pad (l : Layout) (s : List Char) : List Char :=
  let n := l.width - s.length
  let fill (n : Nat) : List Char := List.replicate n l.fill
  match l.align with
  | .left => s ++ fill n
  | .inner => s ++ fill n
  | .right => fill n ++ s
  | .center => fill (n / 2) ++ s ++ fill (n - n / 2)

/-- Digits in reverse with separators between groups, filled up with zeros until they
take a least width. -/
def groupReversed (separator : Char) (size : Nat) : Nat → Nat → List Char → List Char
  | 0, _, ds => ds
  | fuel + 1, width, ds =>
      let len := min size (max (max ds.length width) 1)
      let here := ds.take len ++ List.replicate (len - ds.length) '0'
      if ds.length ≤ len ∧ width ≤ len then here
      else here ++ separator :: groupReversed separator size fuel (width - len - 1) (ds.drop len)

def Layout.digits (l : Layout) (size width : Nat) (ds : List Char) : List Char :=
  match ds, l.separator with
  | [], _ => []
  | ds, none => List.replicate (width - ds.length) '0' ++ ds
  | ds, some c => (groupReversed c size (ds.length + width) width ds.reverse).reverse

def Layout.signText (l : Layout) (negative : Bool) : List Char :=
  if negative then ['-']
  else match l.sign with
    | some '+' => ['+']
    | some ' ' => [' ']
    | _ => []

/-- Lays a number out: its sign, what stands before its digits, its digits in groups of
some size, and what follows them. -/
def Layout.number (l : Layout) (negative : Bool) (before ds after : List Char) (size : Nat) :
    List Char :=
  let sign := l.signText negative
  let around := sign.length + before.length + after.length
  let least := if l.fill = '0' ∧ l.align = .inner then l.width - around else 0
  let ds := l.digits size least ds
  let n := l.width - (around + ds.length)
  let fill (n : Nat) : List Char := List.replicate n l.fill
  let body := ds ++ after
  match l.align with
  | .left => sign ++ before ++ body ++ fill n
  | .right => fill n ++ sign ++ before ++ body
  | .inner => sign ++ before ++ fill n ++ body
  | .center => fill (n / 2) ++ sign ++ before ++ body ++ fill (n - n / 2)

end Vetting.Template
