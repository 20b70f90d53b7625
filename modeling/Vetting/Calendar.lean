import Vetting.Text.Digit

/-!
# Dates and moments

A moment is a date with a time of day to the microsecond and, if it is tied to a
zone, the zone's distance from universal time in seconds. Only days that exist are
built from numbers or read from text; years run from 1 to 9999.
-/
namespace Vetting

structure Date where
  year : Nat
  month : Nat
  day : Nat
  deriving DecidableEq, Repr

structure Moment where
  date : Date
  hour : Nat
  minute : Nat
  second : Nat
  micro : Nat
  offset : Option Int
  deriving DecidableEq, Repr

namespace Date

def isLeap (year : Nat) : Bool :=
  year % 4 = 0 && (year % 100 != 0 || year % 400 = 0)

def daysIn (year month : Nat) : Nat :=
  if month = 2 then (if isLeap year then 29 else 28)
  else if month = 4 ∨ month = 6 ∨ month = 9 ∨ month = 11 then 30
  else 31

def ofNumbers? (year month day : Nat) : Option Date :=
  if 1 ≤ year ∧ year ≤ 9999 ∧ 1 ≤ month ∧ month ≤ 12 ∧ 1 ≤ day ∧ day ≤ daysIn year month then
    some ⟨year, month, day⟩
  else none

/-- Days before the first of January of a year, the year 1 having none before it. -/
def daysBeforeYear (year : Nat) : Nat :=
  let y := year - 1
  y * 365 + y / 4 - y / 100 + y / 400

def daysBeforeMonth (year month : Nat) : Nat :=
  (List.range (month - 1)).foldl (fun n i => n + daysIn year (i + 1)) 0

/-- Position in the row of all days, the first of January of the year 1 being 1. -/
def ordinal (d : Date) : Nat := daysBeforeYear d.year + daysBeforeMonth d.year d.month + d.day

def toKey (d : Date) : List Int := [d.year, d.month, d.day]

end Date

def padded (width n : Nat) : List Char :=
  let ds := (Nat.repr n).toList
  List.replicate (width - ds.length) '0' ++ ds

def Date.text (d : Date) : String :=
  String.ofList (padded 4 d.year ++ '-' :: padded 2 d.month ++ '-' :: padded 2 d.day)

namespace Moment

/-- Seconds from the start of the first day, in universal time where there is a zone. -/
def seconds (t : Moment) : Int :=
  (t.date.ordinal * 86400 + t.hour * 3600 + t.minute * 60 + t.second : Nat) - t.offset.getD 0

def toKey (t : Moment) : List Int := [t.seconds, t.micro]

def offsetText (seconds : Int) : List Char :=
  let n := seconds.natAbs
  let tail := if n % 60 = 0 then [] else ':' :: padded 2 (n % 60)
  (if seconds < 0 then '-' else '+') ::
    (padded 2 (n / 3600) ++ ':' :: padded 2 (n / 60 % 60)) ++ tail

/-- Date and time with a separator between them. Fractions of a second are written,
in full, only when there are any. -/
def textWith (separator : Char) (t : Moment) : String :=
  String.ofList (t.date.text.toList ++ separator :: padded 2 t.hour ++ ':' :: padded 2 t.minute
    ++ ':' :: padded 2 t.second ++ (if t.micro = 0 then [] else '.' :: padded 6 t.micro)
    ++ (t.offset.map offsetText).getD [])

def text (t : Moment) : String := textWith ' ' t

def ofNumbers? (date : Date) (hour minute second micro : Nat) (offset : Option Int) :
    Option Moment :=
  if hour < 24 ∧ minute < 60 ∧ second < 60 ∧ micro < 1000000 ∧
      (offset.getD 0).natAbs < 86400 then
    some ⟨date, hour, minute, second, micro, offset⟩
  else none

end Moment

/-- A number of exactly so many ASCII digits at the front of a text. -/
def takeField (width : Nat) (s : List Char) : Option (Nat × List Char) :=
  let ds := s.take width
  if ds.length = width ∧ ds.all Text.isAsciiDigit then
    some (Text.ofDigits (Text.digitValues ds), s.drop width)
  else none

def takeChar (c : Char) : List Char → Option (List Char)
  | d :: rest => if d = c then some rest else none
  | [] => none

def Date.take? (s : List Char) : Option (Date × List Char) := do
  let (y, s) ← takeField 4 s
  let s ← takeChar '-' s
  let (m, s) ← takeField 2 s
  let s ← takeChar '-' s
  let (d, s) ← takeField 2 s
  let date ← Date.ofNumbers? y m d
  some (date, s)

def Date.ofText? (s : String) : Option Date :=
  match Date.take? s.toList with
  | some (d, []) => some d
  | _ => none

/-- Reads a zone: nothing, or hours and minutes from universal time. -/
def Moment.takeOffset? : List Char → Option (Option Int)
  | [] => some none
  | ['Z'] => some (some 0)
  | c :: s => do
      let sign : Int ← if c = '+' then some 1 else if c = '-' then some (-1) else none
      let (h, s) ← takeField 2 s
      let s ← takeChar ':' s
      let (m, s) ← takeField 2 s
      match s with
      | [] => some (some (sign * ((h * 3600 + m * 60 : Nat) : Int)))
      | _ => none

/-- Reads a fraction of a second of one to six digits, in microseconds. -/
def Moment.takeFraction (s : List Char) : Nat × List Char :=
  match s with
  | '.' :: rest =>
      let ds := (rest.takeWhile Text.isAsciiDigit).take 6
      (Text.ofDigits (Text.digitValues ds) * Nat.pow 10 (6 - ds.length),
        rest.dropWhile Text.isAsciiDigit)
  | _ => (0, s)

def Moment.ofText? (s : String) : Option Moment := do
  let (date, s) ← Date.take? s.toList
  match s with
  | [] => Moment.ofNumbers? date 0 0 0 0 none
  | _ :: s =>
      let (h, s) ← takeField 2 s
      let s ← takeChar ':' s
      let (m, s) ← takeField 2 s
      let (sec, s) := ((takeChar ':' s).bind (takeField 2)).getD (0, s)
      let (micro, s) := Moment.takeFraction s
      let offset ← Moment.takeOffset? s
      Moment.ofNumbers? date h m sec micro offset

end Vetting
