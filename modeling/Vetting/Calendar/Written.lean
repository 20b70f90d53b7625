import Vetting.Calendar

/-!
# Dates and moments by directives

A layout of a date is text with directives, each a percent sign and a letter. Names of
days and months are English, weeks start on Sunday or Monday or follow the numbering
with the first Thursday of a year in its first week. What is no directive stays.
-/
namespace Vetting

def Date.weekday (d : Date) : Nat := (d.ordinal + 6) % 7

def Date.yearDay (d : Date) : Nat := d.ordinal - Date.daysBeforeYear d.year

def dayNames : List String :=
  ["Monday", "Tuesday", "Wednesday", "Thursday", "Friday", "Saturday", "Sunday"]

def monthNames : List String :=
  ["January", "February", "March", "April", "May", "June", "July", "August", "September",
   "October", "November", "December"]

def nameAt (names : List String) (i : Nat) : List Char := (names.getD i "").toList

/-- The number of the week of a day, counted from the first day of its year that is the
first of a week. `shift` is how many days the week starts after Monday. -/
def Date.weekFrom (d : Date) (shift : Nat) : Nat :=
  (d.yearDay + 6 - (d.weekday + 7 - shift) % 7) / 7

/-- The year and the week with the Thursday of a day's week. -/
def Date.thursdayWeek (d : Date) : Nat × Nat :=
  let n : Int := d.ordinal - d.weekday + 3
  let within (year : Nat) : Int := n - Date.daysBeforeYear year
  let length (year : Nat) : Int := if Date.isLeap year then 366 else 365
  if within d.year < 1 then
    (d.year - 1, ((within (d.year - 1) + 6) / 7).toNat)
  else if length d.year < within d.year then
    (d.year + 1, ((within (d.year + 1) + 6) / 7).toNat)
  else (d.year, ((within d.year + 6) / 7).toNat)

def blankPadded (width n : Nat) : List Char :=
  let ds := (Nat.repr n).toList
  List.replicate (width - ds.length) ' ' ++ ds

def hourOfHalfDay (hour : Nat) : Nat := if hour % 12 = 0 then 12 else hour % 12

/-- A zone's distance from universal time without a colon. -/
def plainOffset (offset : Int) : List Char := (Moment.offsetText offset).filter (· != ':')

def zoneName (offset : Int) : List Char :=
  if offset = 0 then "UTC".toList else "UTC".toList ++ Moment.offsetText offset

namespace Moment

def clock (t : Moment) : List Char :=
  padded 2 t.hour ++ ':' :: padded 2 t.minute ++ ':' :: padded 2 t.second

def slashed (t : Moment) : List Char :=
  padded 2 t.date.month ++ '/' :: padded 2 t.date.day ++ '/' :: padded 2 (t.date.year % 100)

def directive? (t : Moment) (c : Char) : Option (List Char) :=
  let d := t.date
  match c with
  | 'Y' => some (Nat.repr d.year).toList
  | 'm' => some (padded 2 d.month)
  | 'd' => some (padded 2 d.day)
  | 'e' => some (blankPadded 2 d.day)
  | 'H' => some (padded 2 t.hour)
  | 'I' => some (padded 2 (hourOfHalfDay t.hour))
  | 'k' => some (blankPadded 2 t.hour)
  | 'l' => some (blankPadded 2 (hourOfHalfDay t.hour))
  | 'M' => some (padded 2 t.minute)
  | 'S' => some (padded 2 t.second)
  | 'f' => some (padded 6 t.micro)
  | 'y' => some (padded 2 (d.year % 100))
  | 'C' => some (padded 2 (d.year / 100))
  | 'j' => some (padded 3 d.yearDay)
  | 'a' => some ((nameAt dayNames d.weekday).take 3)
  | 'A' => some (nameAt dayNames d.weekday)
  | 'b' => some ((nameAt monthNames (d.month - 1)).take 3)
  | 'h' => some ((nameAt monthNames (d.month - 1)).take 3)
  | 'B' => some (nameAt monthNames (d.month - 1))
  | 'p' => some (if t.hour < 12 then "AM".toList else "PM".toList)
  | 'P' => some (if t.hour < 12 then "am".toList else "pm".toList)
  | 'w' => some (Nat.repr ((d.weekday + 1) % 7)).toList
  | 'u' => some (Nat.repr (d.weekday + 1)).toList
  | 'U' => some (padded 2 (d.weekFrom 6))
  | 'W' => some (padded 2 (d.weekFrom 0))
  | 'V' => some (padded 2 d.thursdayWeek.2)
  | 'G' => some (Nat.repr d.thursdayWeek.1).toList
  | 'g' => some (padded 2 (d.thursdayWeek.1 % 100))
  | 'F' => some ((Nat.repr d.year).toList ++ '-' :: padded 2 d.month ++ '-' :: padded 2 d.day)
  | 'T' => some t.clock
  | 'X' => some t.clock
  | 'R' => some (padded 2 t.hour ++ ':' :: padded 2 t.minute)
  | 'D' => some t.slashed
  | 'x' => some t.slashed
  | 'r' => some (padded 2 (hourOfHalfDay t.hour) ++ t.clock.drop 2 ++
      (if t.hour < 12 then " AM".toList else " PM".toList))
  | 'c' => some ((nameAt dayNames d.weekday).take 3 ++
      ' ' :: (nameAt monthNames (d.month - 1)).take 3 ++ ' ' :: blankPadded 2 d.day ++
      ' ' :: t.clock ++ ' ' :: (Nat.repr d.year).toList)
  | 'n' => some ['\n']
  | 't' => some ['\t']
  | '%' => some ['%']
  | 'z' => some ((t.offset.map plainOffset).getD [])
  | 'Z' => some ((t.offset.map zoneName).getD [])
  | _ => none

/-- Fills in the directives of a text. -/
def laidOut (t : Moment) : List Char → List Char
  | [] => []
  | ['%'] => ['%']
  | '%' :: c :: rest =>
      match t.directive? c with
      | some s => s ++ laidOut t rest
      | none => '%' :: c :: laidOut t rest
  | c :: rest => c :: laidOut t rest

end Moment

def Date.midnight (d : Date) : Moment := ⟨d, 0, 0, 0, 0, none⟩

end Vetting
