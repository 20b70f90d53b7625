import Vetting.Text.Digit
import Vetting.Text.Split

/-!
# Internet addresses

Addresses of version 4 are four numbers below 256 in decimal without needless zeros.
Addresses of version 6 are eight groups of up to four hexadecimal digits, of which the
last two can be written as an address of version 4, and one run of which can be left
out. A zone can follow a percent sign.
-/
namespace Vetting.Address
open Text

def isOctet (s : List Char) : Bool :=
  !s.isEmpty && s.all isAsciiDigit && s.length ≤ 3 && (s = ['0'] || s.head? != some '0') &&
    ofDigits (digitValues s) ≤ 255

def isVersion4 (s : List Char) : Bool :=
  let parts := split '.' s
  parts.length = 4 && parts.all isOctet

def isGroupDigit (c : Char) : Bool :=
  isAsciiDigit c || ('a' ≤ c && c ≤ 'f') || ('A' ≤ c && c ≤ 'F')

def isGroup (s : List Char) : Bool := !s.isEmpty && s.length ≤ 4 && s.all isGroupDigit

/-- Positions of empty parts that have neighbours on both sides. -/
def innerGaps (parts : List (List Char)) : List Nat :=
  (List.range parts.length).filter fun i =>
    0 < i && i + 1 < parts.length && (parts.getD i []).isEmpty

/-- Groups on one side of a gap. A side that is empty as a whole has one empty part. -/
def isSide (parts : List (List Char)) : Bool := parts = [[]] || parts.all isGroup

def sideLength (parts : List (List Char)) : Nat := if parts = [[]] then 0 else parts.length

def areGroups (parts : List (List Char)) : Bool :=
  parts.length ≤ 9 &&
    match innerGaps parts with
    | [] => parts.length = 8 && parts.all isGroup
    | [i] =>
        let high := parts.take i
        let low := parts.drop (i + 1)
        isSide high && isSide low && sideLength high + sideLength low ≤ 7
    | _ => false

/-- Parts whose last one, written as an address of version 4, counts as two groups. -/
def expandLast (parts : List (List Char)) : Option (List (List Char)) :=
  match parts.getLast? with
  | some last =>
      if last.contains '.' then
        if isVersion4 last then some (parts.dropLast ++ [['0'], ['0']]) else none
      else some parts
  | none => none

/-- A text without its zone; none when the zone is not well written. -/
def withoutZone (s : List Char) : Option (List Char) :=
  match split '%' s with
  | [address] => some address
  | [address, zone] => if zone.isEmpty then none else some address
  | _ => none

def isVersion6 (s : List Char) : Bool :=
  if s.contains '/' then false
  else match withoutZone s with
    | none => false
    | some address =>
        let parts := split ':' address
        3 ≤ parts.length &&
          match expandLast parts with
          | some groups => areGroups groups
          | none => false

def version? (s : List Char) : Option Nat :=
  if isVersion4 s then some 4 else if isVersion6 s then some 6 else none

end Vetting.Address
