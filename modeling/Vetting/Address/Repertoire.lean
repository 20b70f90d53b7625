import Vetting.Text.Composition
import Vetting.Text.Digit

/-!
# Characters of labels

Labels are made of letters, marks and digits of all scripts. Some characters are
permitted only beside certain others: joiners where letters join or after a sign that
suppresses a vowel, a few punctuation marks within their script, and digits of the
two Arabic forms only when they are not mixed.
-/
namespace Vetting.Address
open Text

def permittedRuns : Runs := Runs.ofDistances
  ["df 18 1 8 1 1 1 1 1 1 1 1 1 1 1 1 1 1 1 1 1 1 1 1 1 1 1 1 1 1 1 1 1 1 1 1 1 1 1 1 1 1 1 1 1",
   "1 1 1 1 1 1 1 1 1 3 1 1 2 1 1 1 1 1 1 3 1 1 1 1 1 1 1 2 1 1 1 1 1 1 1 1 1 1 1 1 1 1 1 1 1 1",
   "1 1 1 1 1 1 1 1 1 1 1 1 1 1 1 1 1 1 1 1 1 1 1 1 1 1 1 2 1 1 1 1 1 1 1 2 1 1 1 2 1 3 2 4 1 2",
   "1 3 3 2 1 2 1 1 1 1 1 2 1 1 2 1 1 2 1 3 1 1 1 2 3 1 7 a 1 1 1 1 1 1 1 1 1 1 1 1 1 1 2 1 1 1",
   "1 1 1 1 1 1 1 1 1 1 1 1 1 1 2 4 1 3 1 1 1 1 1 1 1 1 1 1 1 1 1 1 1 1 1 1 1 1 1 1 1 1 1 1 1 1",
   "1 1 1 1 1 1 1 1 1 1 1 1 1 1 1 1 1 1 1 1 1 1 1 1 1 1 1 1 1 1 7 2 1 2 2 1 1 4 1 1 1 1 1 1 1 1",
   "61 9 9 4 c 1a 1 1 1 11 40 2 1 3 9 1 20 1 1 1 1 3 1 3 3 12 1 1b 23 8 1 1 1 1 1 1 1 1 1 1 1 1",
   "1 1 1 1 1 1 1 1 1 1 1 1 1 3 1 4 1 2 2 33 30 1 1 1 1 1 1 1 1 1 1 1 1 1 1 1 1 1 1 1 1 1 1 1 1",
   "1 1 1 1 1 1 1 1 1 1 1 5 3 1 1 1 1 1 1 1 1 1 1 1 1 1 1 1 1 1 1 1 1 1 1 1 1 1 1 1 1 1 1 1 1 1",
   "1 1 1 1 1 1 1 1 1 1 1 1 1 1 1 1 1 1 1 1 2 1 1 1 1 1 1 1 1 1 1 1 1 2 1 1 1 1 1 1 1 1 1 1 1 1",
   "1 1 1 1 1 1 1 1 1 1 1 1 1 1 1 1 1 1 1 1 1 1 1 1 1 1 1 1 1 1 1 1 1 1 1 1 1 1 1 1 1 1 1 1 1 1",
   "1 1 1 1 1 1 1 1 1 1 1 1 1 1 1 1 1 1 1 1 1 1 1 1 1 1 1 1 1 1 1 1 1 1 1 1 1 1 29 1 6 27 1 1 8",
   "2d 1 1 1 2 1 2 1 1 8 1b 4 4 1d b 5 20 1 1f e 7 4 5b 1 8 2 a 1 6 a 6 10 3b 2 65 e 36 7 1 2 2e",
   "12 1c 4 b 5 18 1 6 9 4a 1 75 8 4 2 a 1 13 1 8 2 2 2 16 1 7 1 1 3 4 2 9 2 2 2 4 8 1 8 4 2 c a",
   "1 1 1 2 3 1 6 4 2 2 16 1 7 1 1 2 1 2 2 2 1 1 5 4 2 2 3 3 1 a 1 9 10 b 3 1 9 1 3 1 16 1 7 1 2",
   "1 5 2 a 1 3 1 3 2 1 f 4 2 a 9 7 1 3 1 8 2 2 2 16 1 7 1 2 1 5 2 9 2 2 2 3 7 3 7 5 2 a 1 1 10",
   "2 1 6 3 3 1 4 3 2 1 1 1 2 3 2 3 3 3 c 4 5 3 3 1 4 2 1 6 1 e a 10 d 1 3 1 17 1 10 2 9 1 3 1 4",
   "7 2 1 3 2 1 2 4 2 a 10 4 1 8 1 3 1 17 1 a 1 5 2 9 1 3 1 4 7 2 6 2 1 4 2 a 1 2 d d 1 3 1 33 1",
   "3 1 5 5 4 7 5 2 a a 6 1 3 1 12 3 18 1 9 1 1 2 7 3 1 4 6 1 1 1 8 6 a 2 2 d 32 1 7 5 f 1 a 27",
   "2 1 1 1 5 1 18 1 1 1 c 1 a 2 5 1 1 1 6 2 a 4 2 20 1 a 1 c 2 6 a b 1 1 1 1 1 4 5 1 4 1 4 1 4",
   "1 4 1 4 1 c 1 3 4 2 1 1 5 7 1 3 1 d 1 4 1 4 1 4 1 4 1 4 1 c 1 3 9 1 39 4a 6 4e 32 2b 2 3 100",
   "49 1 4 2 7 1 1 1 4 2 29 1 4 2 21 1 4 2 7 1 1 1 4 2 f 1 39 1 4 2 43 2 3 20 10 10 56 b 26c 2",
   "11 1 1a 5 4b 6 8 7 16 9 16 b 14 c d 1 3 1 2 c 34 2 1e 3 1 4 2 2 a 26 a 6 59 7 2b 5 46 a 1f 1",
   "c 4 c a 28 2 5 b 2c 4 1a 6 a 26 1c 4 3f 1 1d 2 b 6 a d 1 8 e 1 10 31 4d 3 a 11 9 c 74 c 38 8",
   "a 3 31 52 3 1 27 5 2c 3 1 b 1 12 1 1c d 1 22 25 40 1 1 1 1 1 1 1 1 1 1 1 1 1 1 1 1 1 1 1 1 1",
   "1 1 1 1 1 1 1 1 1 1 1 1 1 1 1 1 1 1 1 1 1 1 1 1 1 1 1 1 1 1 1 1 1 1 1 1 1 1 1 1 1 1 1 1 1 1",
   "1 1 1 1 1 1 1 1 1 1 1 1 1 1 1 1 1 1 1 1 1 1 1 1 1 1 1 1 1 1 1 1 1 1 1 1 1 1 1 1 1 1 1 1 1 1",
   "1 1 1 1 1 1 1 1 1 1 1 1 1 1 1 1 1 1 1 1 1 1 1 1 1 1 1 1 1 1 1 1 1 1 1 1 5 2 2 1 1 1 1 1 1 1",
   "1 1 1 1 1 1 1 1 1 1 1 1 1 1 1 1 1 1 1 1 1 1 1 1 1 1 1 1 1 1 1 1 1 1 1 1 1 1 1 1 1 1 1 1 1 1",
   "1 1 1 1 1 1 1 1 1 1 1 1 1 1 1 1 1 1 1 1 1 1 1 1 1 1 1 1 1 1 1 1 1 1 1 1 1 1 1 1 1 1 1 1 9 8",
   "6 a 8 8 8 8 6 a 8 8 8 8 1 1 1 1 1 1 1 1 1 1 1 1 1 33 2 4 1 f 1 9 3 3 2 8 3 1 4 e 1 157 1 35",
   "1 aab 30 1 1 3 2 1 1 1 1 1 1 4 1 1 2 1 6 5 1 1 1 1 1 1 1 1 1 1 1 1 1 1 1 1 1 1 1 1 1 1 1 1 1",
   "1 1 1 1 1 1 1 1 1 1 1 1 1 1 1 1 1 1 1 1 1 1 1 1 1 1 1 1 1 1 1 1 1 1 1 1 1 1 1 1 1 1 1 1 1 1",
   "1 1 1 1 1 1 1 1 1 1 1 1 1 1 1 1 1 1 1 1 1 1 1 1 1 1 1 2 7 1 1 4 1 1 c 26 1 1 5 1 2 38 17 18",
   "9 7 1 7 1 7 1 7 1 7 1 7 1 7 1 7 1 20 2f 1 1d5 3 22 4 e 1 4 56 2 2 2 2 2 5a 1 3 6 2b 70 20 30",
   "10 200 19c0 40 568d 43 2e 2 10d 3 1c 15 1 1 1 1 1 1 1 1 1 1 1 1 1 1 1 1 1 1 1 1 1 1 1 1 1 1",
   "1 1 1 1 1 1 1 1 1 1 1 1 1 1 1 1 1 1 3 4 a 1 1 1 1 1 1 1 1 1 1 1 1 1 1 1 1 1 1 1 1 1 1 1 1 1",
   "1 1 1 1 1 2 48 a 2 25 9 3 1 1 1 1 1 1 1 1 1 1 1 1 3 1 1 1 1 1 1 1 1 1 1 1 1 1 1 1 1 1 1 1 1",
   "1 1 1 1 1 1 1 1 1 1 1 1 1 1 1 1 1 1 1 1 1 1 1 1 1 1 1 1 1 1 1 1 1 1 1 1 1 1 1 1 1 1 1 8 1 1",
   "1 1 2 1 1 1 1 1 1 1 1 2 3 1 1 2 1 1 1 3 1 1 1 1 1 1 1 1 1 1 1 1 1 1 1 1 1 1 1 1 5 1 5 1 1 1",
   "1 1 1 1 1 1 1 1 1 1 1 1 4 1 1 1 6 1 1 1 1 1 1 1 1 1 1c 2 2 2e 4 1 13 34 c 46 a a 6 18 3 1 1",
   "31 2 24 2c 41 e b 6 1f 1 37 9 e 2 a 6 17 3 49 18 3 2 10 2 5 a 6 2 6 2 6 9 7 1 7 1 2b 5 9 57",
   "2b 1 2 2 a 6 2ba4 226a 2 1 1 1 2 a 1 1 1 1 2 2 3 f4 1 301 10 43 1 18c c 1 1a 1 13 1 2 1 f 2",
   "e 22 7b 102 1 82 1d 3 31 f 1 1f 20 d 14 1 8 6 2b 5 1e 2 24 4 8 58 76 2 a 2e 24 4 28 8 34 33",
   "b 1 f 1 7 1 2 43 137 9 16 a 8 18 1 7f 6 2 1 1 2c 1 2 3 1 2 17 a 17 9 1f 41 13 1 2 a 16 a 1a",
   "46 38 6 2 40 4 1 2 5 8 1 3 1 1d 2 3 4 1 20 1d 3 1d 23 8 1 1e 19 36 a 16 a 13 d 12 6e 49 77",
   "33 d 28 8 a 146 2a 1 2 3 2 4e 1d a 1 8 21 1f 16 2a 15 1b 17 9 47 1f 10 9 3c 7 1 d 19 7 a 6",
   "35 1 a 4 4 8 24 2 1 9 45 4 4 1 d 1 1 23 12 1 25 6 1 41 7 1 1 1 4 1 f 1 a 7 3b 5 a 6 4 1 8 2",
   "2 2 16 1 7 1 2 1 5 1 a 2 2 2 3 2 1 6 1 5 7 2 7 3 5 8b 4b 5 a 4 4 1e 46 1 1 8 a a6 36 2 9 17",
   "6 22 41 3 1 b a 26 39 7 a 36 1b 2 f 4 a 6 7 b9 3b 85 2a 15 8 2 1 2 8 1 2 1 1e 1 2 2 9 c a 46",
   "8 2 2e 2 8 1 2 1b 3f 8 1 8 4a 3 1 12 49 107 9 1 2d 1 9 f a 18 1e 2 16 1 e 49 7 1 2 1 2c 3 1",
   "1 2 1 9 8 a 6 6 1 2 1 25 1 2 1 6 7 a 136 17 b9 1 4f 39a e6 c4 a4c 61 f 42f fd1 247 21b9 239",
   "7 1f 1 a 6 4f 1 a 6 1e 2 5 b 37 9 4 c a 9 15 5 13 2d0 20 80 4b 4 39 7 11 40 2 1 2 b 2 e 17f8",
   "8 4d6 2a 9 22e7 4 1 7 1 2 1 123 2d 3 11 4 8 18c 904 6b 5 d 3 9 7 a 3 2 1261 2e 2 17 ab9 37 4",
   "32 8 1 e 1 16 5 1 f 450 1f e1 7 1 11 2 7 1 2 1 5 d5 2d 3 e 2 a 4 1 141 1f 11 3a 4e6 7 1 4 1",
   "2 1 f 1 c5 b 7 4b 2a 4 a 16a6 a6e0 20 1039 7 de 2 1682 e 1d31 141f 134b"]

def joiningAfterRuns : Runs := Runs.ofDistances
  ["620 1 5 1 1 1 1 5 4 d 1 7 1 2 23 2 9 f 12 26 1 2 9 1 1 1 1 2 28 3 2 1 12 3 5 4 1 9 1 1 1 1 1",
   "2 1f b 3 f 2 4 1 1 2 3 2 6 4a 21 56 5 2 1 1 a 1 1 a 1 1 4 2 1 1d 1 2 5 12 a 5 2 2 6 1 f f57",
   "59 e 22 1 1 8f95 33 624d 5 8 1 5 a 1 3 9f 1 1 1 3 3 1 2 1 1 2 1 16f 22 1 1 20c 3 1 11 2b 4 2",
   "c 2e 1 1 2 4 1 2 2 1 2 1 1 2 1 d95d 22"]

def joiningBeforeRuns : Runs := Runs.ofDistances
  ["620 1 1 1e 1 a 23 2 1 3 5 5b 1 1 18 2 a 3 2 1 10 1 1 1e 1d 33 4a 21 55 19 7 1 1 4 1 4 5 13 3",
   "1 2 6 11 d 1 1b f57 59 e 22 1 1 8f95 32 624e 6 1 1 1 2 3 9 1 a 2 1 9b 12 16f 23 20c 15 2b 12",
   "2e 1 1 5 1 8 1 4 d95d 22"]

def transparentRuns : Runs := Runs.ofDistances
  ["300 40 2 1 3 9 1 20 113 5 109 2d 1 1 1 2 1 2 1 1 48 b 30 15 10 1 65 7 2 6 2 2 1 4 23 1 1e 1b",
   "5b b 3a 9 9 1 18 4 1 9 1 3 1 5 2b 3 3c 8 2a 18 1 20 37 1 1 1 4 8 4 1 3 7 a 2 1d 1 3a 1 4 4 8",
   "1 14 2 1a 1 2 2 39 1 4 2 4 2 2 3 3 1 1e 2 3 1 b 2 39 1 4 5 1 2 4 1 14 2 16 6 1 1 3a 1 2 1 1",
   "4 8 1 7 2 b 2 1e 1 3d 1 c 1 32 1 3 1 37 1 1 3 5 3 1 4 7 2 b 2 1d 1 3a 1 2 1 6 1 5 2 14 2 1c",
   "2 39 2 4 4 8 1 14 2 1d 1 48 1 7 3 1 1 5a 1 2 7 c 8 62 1 2 9 b 6 4a 2 1b 1 1 1 1 1 37 2 1 1 5",
   "5 1 1 1 3 1 2 5 6 1 4 1 4 1 4 1 4 1 4 1 c 1 3 9 1 66 4 1 6 1 2 2 2 19 2 4 3 10 4 d 1 2 2 6 1",
   "f 1 2bf 3 3b2 3 1d 2 1e 2 1e 2 43 7 8 1 2 b 9 1 a7 2 22 1 76 3 4 2 9 1 6 3 db 2 2 1 3a 1 1 7",
   "1 1 1 1 2 8 6 a 2 1 30 e 1 10 31 4 30 1 1 5 1 1 5 1 28 9 c 2 20 4 2 2 1 3 38 1 1 2 3 1 1 3",
   "3a 8 2 2 98 3 1 d 1 7 4 1 6 1 3 2 c6 40 eef 3 8d 1 60 20 22a 4 6b 2 75d4 1 4 a 20 2 50 2 110",
   "1 3 1 4 1 19 2 5 1 97 2 1a 12 d 1 26 8 19 b 2e 3 30 1 2 4 2 2 27 1 43 6 2 2 2 2 c 1 8 1 2f 1",
   "33 1 1 3 2 2 5 2 1 1 2a 2 8 1 ee 1 2 1 4 1 4f30 1 301 10 3cd 1 e2 1 95 5 686 3 1 2 5 4 28 3",
   "4 1 a5 2 23d 4 183 2 99 b 31 4 7b 1 36 f 29 1 2 2 a 3 31 4 2 2 7 1 3d 3 24 5 1 8 3e 1 c 2 34",
   "9 a 4 2 1 5f 3 2 1 1 2 6 1 a0 1 3 8 15 2 39 2 3 1 25 7 3 5 c3 8 2 3 1 1 17 1 54 6 1 1 4 2 1",
   "2 ee 4 6 2 1 2 1b 2 55 8 2 1 1 2 6a 1 1 1 2 6 1 1 65 1 1 1 2 4 1 5 103 9 1 2 100 2 1 1 4 1",
   "90 4 2 2 4 1 20 a 28 6 2 4 8 1 9 6 2 3 2e d 1 2 196 7 1 6 1 1 52 16 2 7 1 2 1 2 7a 6 3 1 1 2",
   "1 7 1 1 48 2 3 1 1 1 15b 2 4bfb 5 3b 7 418 1 3f 4 51 1 4cb8 2 1261 2e 2 17 ab9 37 4 32 8 1 e",
   "1 16 5 1 f 550 7 1 11 2 7 1 2 1 5 105 7 177 1 3d 4 5e0 7 6d 8"]

def greekRuns : Runs := Runs.ofDistances
  ["370 4 1 3 2 4 1 1 4 1 1 1 1 3 1 1 1 14 1 3f e 10 1926 5 32 5 4 5 54 1 140 16 2 6 2 26 2 6 2",
   "8 1 1 1 1 1 1 1 1f 2 35 1 f 1 e 2 6 1 13 2 3 1 9 127 1 8a3e 1 55da 4f 11 1 d05f 46"]

def hebrewRuns : Runs := Runs.ofDistances
  ["591 37 8 1b 4 6 f528 1a 1 5 1 1 1 2 1 2 1 a"]

/-- Kana and ideographs. -/
def japaneseRuns : Runs := Runs.ofDistances
  ["2e80 1a 1 59 c d6 2f 1 1 1 19 9 e 4 5 56 6 3 1 5a 2 3 f0 10 d0 2f 1 58 a8 19c0 40 5200 5900",
   "16e 2 6a 48c a 1 2d 7044 2 c 2 3ffe 4 1 7 1 2 1 123 2d 3 11 4 4098 1 dff a6e0 20 1039 7 de 2",
   "1682 e 1d31 c1f 21e 5e2 134b"]

def isTransparent (c : Char) : Bool := transparentRuns.contains c.toNat

/-- The class of signs that suppress a vowel. -/
def viramaClass : Nat := 9

def isVirama (c : Char) : Bool := combiningClass c = viramaClass

def isArabicDigit (c : Char) : Bool := within 0x660 10 c.toNat

def isExtendedArabicDigit (c : Char) : Bool := within 0x6F0 10 c.toNat

/-- Whether the first character that does not let joining through is in a set. -/
def meets (r : Runs) (s : List Char) : Bool :=
  match s.dropWhile isTransparent with
  | c :: _ => r.contains c.toNat
  | [] => false

/-- Whether a character is permitted in a label between what stands before it, nearest
first, and what stands after it. -/
def isPermittedBetween (before : List Char) (c : Char) (after : List Char) : Bool :=
  let neighbour (r : Runs) (s : List Char) : Bool := s.head?.any fun d => r.contains d.toNat
  let label := before ++ after
  match c.toNat with
  | 0x200C =>
      before.head?.any isVirama || (meets joiningAfterRuns before && meets joiningBeforeRuns after)
  | 0x200D => before.head?.any isVirama
  | 0xB7 => before.head? == some 'l' && after.head? == some 'l'
  | 0x375 => neighbour greekRuns after
  | 0x5F3 => neighbour hebrewRuns before
  | 0x5F4 => neighbour hebrewRuns before
  | 0x30FB => label.any fun d => d != c && japaneseRuns.contains d.toNat
  | n =>
      if isArabicDigit c then !label.any isExtendedArabicDigit
      else if isExtendedArabicDigit c then !label.any isArabicDigit
      else if n < 128 then ('a' ≤ c && c ≤ 'z') || isAsciiDigit c || c = '-'
      else permittedRuns.contains n

def areAllPermitted (before : List Char) : List Char → Bool
  | [] => true
  | c :: rest => isPermittedBetween before c rest && areAllPermitted (c :: before) rest

end Vetting.Address
