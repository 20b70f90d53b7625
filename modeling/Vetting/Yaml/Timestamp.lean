import Vetting.Value.Basic
import Vetting.Yaml.Source

/-!
# Moments in scalars

A date, or a date with a time of day. Months, days and hours can do with one digit; a
fraction of a second can have any number of digits, of which six count; and a zone is a
letter or a distance, with or without minutes.
-/
namespace Vetting.Yaml
open Text

def takeShort (s : List Char) : Option (Nat × List Char) :=
  let ds := (s.takeWhile isAsciiDigit).take 2
  if ds.isEmpty then none else some (ofDigits (digitValues ds), s.drop ds.length)

def takeYearToDay (s : List Char) : Option ((Nat × Nat × Nat) × List Char) := do
  let (year, s) ← takeField 4 s
  let (month, s) ← (takeChar '-' s).bind takeShort
  let (day, s) ← (takeChar '-' s).bind takeShort
  some ((year, month, day), s)

def isGap (c : Char) : Bool := c = ' ' || c = '\t'

/-- Goes past what parts a date from a time: a letter, or blanks. -/
def takeGap (s : List Char) : Option (List Char) :=
  match s with
  | c :: rest =>
      if c = 'T' || c = 't' then some rest
      else if isGap c then some (rest.dropWhile isGap)
      else none
  | [] => none

def takeClock (s : List Char) : Option ((Nat × Nat × Nat) × List Char) := do
  let (hour, s) ← takeShort s
  let (minute, s) ← (takeChar ':' s).bind (takeField 2)
  let (second, s) ← (takeChar ':' s).bind (takeField 2)
  some ((hour, minute, second), s)

def distance? (s : List Char) : Option Nat := do
  let (hours, s) ← takeShort s
  match s with
  | [] => some (hours * 3600)
  | _ =>
      match ← (takeChar ':' s).bind (takeField 2) with
      | (minutes, []) => some (hours * 3600 + minutes * 60)
      | _ => none

/-- The zone at the end, in seconds from universal time; perhaps there is none. -/
def zone? (s : List Char) : Option (Option Int) :=
  if s.isEmpty then some none
  else match s.dropWhile isGap with
    | ['Z'] => some (some 0)
    | '+' :: rest => (distance? rest).map fun n => some (n : Int)
    | '-' :: rest => (distance? rest).map fun n => some (-(n : Int))
    | _ => none

structure Written where
  date : Nat × Nat × Nat
  clock : Option ((Nat × Nat × Nat) × Nat × Option Int)

def Written.ofText? (s : List Char) : Option Written := do
  let (date, s) ← takeYearToDay s
  if s.isEmpty then some ⟨date, none⟩
  else
    let (clock, s) ← (takeGap s).bind takeClock
    let (micro, s) := Moment.takeFraction s
    let zone ← zone? s
    some ⟨date, some (clock, micro, zone)⟩

def Written.toValue? (w : Written) : Option Value := do
  let date ← Date.ofNumbers? w.date.1 w.date.2.1 w.date.2.2
  match w.clock with
  | none => some (.date date)
  | some (clock, micro, zone) =>
      (Moment.ofNumbers? date clock.1 clock.2.1 clock.2.2 micro zone).map .moment

/-- The date or moment that a scalar spells, a line end after it aside. -/
def timestampOf (text : List Char) : Except Fault Value :=
  match Written.ofText? (dropLastBreak text) with
  | none => .error .noMember
  | some w =>
      match w.toValue? with
      | some v => .ok v
      | none => .error .badValue

end Vetting.Yaml
