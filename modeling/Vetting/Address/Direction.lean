import Vetting.Text.CodePoints
import Vetting.Text.Composition
import Vetting.Text.Digit

/-!
# Direction of labels

A label with characters written from right to left has to begin with such a letter, may
not hold letters written from left to right, may not mix two kinds of numbers, and has to
end, marks aside, with a letter or a number.
-/
namespace Vetting.Address
open Text

inductive Direction where
  | left | right | arabicNumber | europeanNumber | mark | neutral
  deriving DecidableEq, Repr

def rightRuns : Runs := Runs.ofDistances
  ["5be 1 1 1 2 1 2 1 9 1b 4 6 13 1 2 1 1 1 d 30 22 3 1 65 f 2 7 2 a 14 1 2 1 1e 1d 59 b 1 e 2b",
   "9 2 4 1 3 18 4 1 9 1 3 1 7 f 1 19 5 1 1 b 5 1f 11 2a 1745 1 db0d 1 1 a 1 d 1 5 1 1 1 2 1 2 1",
   "7d 10 16b 12 40 2 36 28 d 73 5 1 87 903 6 2 1 1 2c 1 2 3 1 2 17 1 48 8 9 30 13 1 2 5 21 4 1a",
   "5 1 40 38 4 14 2 2f f 4 1 3 1 1d a 9 7 9 7 40 20 25 6 c 9 36 a 16 2 1b 5 1a 7 4 c 7 50 49 37",
   "33 d 33 7 2a 15c 2a 3 1 2 2 4e 28 8 16 b 9 16 12 4 4 26 1c 14 17 d809 c5 2 9 30 44 7 1 4 a 4",
   "2 311 44 4c 3d c2 4 1 1b 1 2 1 1 2 1 1 a 1 4 1 1 1 1 6 1 4 1 1 1 1 1 1 3 1 2 1 1 2 1 1 1 1 1",
   "1 1 1 1 1 2 1 1 2 4 1 7 1 4 1 4 1 1 1 a 1 11 5 3 1 5 1 11"]

def nonspacingRuns : Runs := Runs.ofDistances
  ["300 70 113 7 107 2d 1 1 1 2 1 2 1 1 48 b 30 15 10 1 65 7 2 6 2 2 1 4 23 1 1e 1b 5b b 3a 9 9",
   "1 18 4 1 9 1 3 1 5 2b 3 3c 8 2a 18 1 20 37 1 1 1 4 8 4 1 3 7 a 2 1d 1 3a 1 4 4 8 1 14 2 1a 1",
   "2 2 39 1 4 2 4 2 2 3 3 1 1e 2 3 1 b 2 39 1 4 5 1 2 4 1 14 2 16 6 1 1 3a 1 2 1 1 4 8 1 7 2 b",
   "2 1e 1 3d 1 c 1 32 1 3 1 37 1 1 3 5 3 1 4 7 2 b 2 1d 1 3a 1 f 2 14 2 1c 2 39 2 4 4 8 1 14 2",
   "1d 1 48 1 7 3 1 1 5a 1 2 7 c 8 62 1 2 9 b 6 4a 2 1b 1 1 1 1 1 37 e 1 5 1 2 5 b 1 24 9 1 66 4",
   "1 6 1 2 2 2 19 2 4 3 10 4 d 1 2 2 6 1 f 1 2bf 3 3b2 3 1d 2 1e 2 1e 2 40 2 1 7 8 1 2 b 9 1 2d",
   "3 1 1 75 2 22 1 76 3 4 2 9 1 6 3 db 2 2 1 3a 1 1 7 1 1 1 1 2 8 6 a 2 1 30 1f 31 4 30 1 1 5 1",
   "1 5 1 28 9 c 2 20 4 2 2 1 3 38 1 1 2 3 1 1 3 3a 8 2 2 98 3 1 d 1 7 4 1 6 1 3 2 c6 40 2d0 21",
   "bfe 3 8d 1 60 20 22a 4 6b 2 75d4 4 1 a 20 2 50 2 110 1 3 1 4 1 19 2 5 1 97 2 1a 12 d 1 26 8",
   "19 b 2e 3 30 1 2 4 2 2 27 1 43 6 2 2 2 2 c 1 8 1 2f 1 33 1 1 3 2 2 5 2 1 1 2a 2 8 1 ee 1 2 1",
   "4 1 4f30 1 2e1 10 10 10 3cd 1 e2 1 95 5 686 3 1 2 5 4 28 3 4 1 a5 2 23d 4 183 2 99 b 31 4 7b",
   "1 36 f 29 1 2 2 a 3 31 4 2 2 7 1 3d 3 24 5 1 8 3e 1 c 2 34 9 a 4 2 1 5f 3 2 1 1 2 6 1 a0 1 3",
   "8 15 2 39 2 3 1 25 7 3 5 c3 8 2 3 1 1 17 1 54 6 1 1 4 2 1 2 ee 4 6 2 1 2 1b 2 55 8 2 1 1 2",
   "6a 1 1 1 2 6 1 1 65 3 2 4 1 5 103 9 1 2 100 2 1 1 4 1 90 4 2 2 4 1 20 6 2 2 28 6 2 4 8 1 9 6",
   "2 3 2e d 1 2 196 7 1 6 54 16 2 7 1 2 1 2 7a 6 3 1 1 2 1 7 1 1 48 2 3 1 1 1 15b 2 4bfb 5 3b 7",
   "418 1 3f 4 51 1 4cb8 2 1261 2e 2 17 220 3 11 8 2 7 1e 4 94 3 7bb 37 4 32 8 1 e 1 16 5 1 f",
   "550 7 1 11 2 7 1 2 1 5 105 7 177 1 3d 4 5e0 7 6d 7 c17b5 f0"]

def neutralRuns : Runs := Runs.ofDistances
  ["b7 1 201 2 b a 1c 1 88 1 1c96 2 e21 1 2cb 1 7583 1 97 9 68 1"]

def direction (c : Char) : Direction :=
  let n := c.toNat
  if rightRuns.contains n then .right
  else if within 0x660 10 n || within 0x10D30 10 n then .arabicNumber
  else if isAsciiDigit c || within 0x6F0 10 n then .europeanNumber
  else if nonspacingRuns.contains n then .mark
  else if c = '-' || n = 0x200C || n = 0x200D || neutralRuns.contains n then .neutral
  else .left

def Direction.endsLabel (d : Direction) : Bool :=
  d = .right || d = .arabicNumber || d = .europeanNumber

def isDirected (ds : List Direction) : Bool :=
  if ds.contains .right || ds.contains .arabicNumber then
    ds.head? == some .right && !ds.contains .left &&
      !(ds.contains .arabicNumber && ds.contains .europeanNumber) &&
      ((ds.filter (· != .mark)).getLast?.any Direction.endsLabel)
  else true

end Vetting.Address
