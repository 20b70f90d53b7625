import Vetting.Pattern.Token
import Vetting.Text.Blank
import Vetting.Text.Case
import Vetting.Text.Word

/-!
# Character classes

A class is a row of points, ranges and categories, possibly turned into its
complement. A character belongs to it by its number; where case is ignored, by any
number that the same small letter or a letter with the same capital has.

`CharClass.read` reads what follows an opening bracket. A closing bracket at the
front and a hyphen at either end stand for themselves.
-/
namespace Vetting.Pattern
open Text

/-- How the parts of a pattern are to be taken. -/
structure Options where
  ignoreCase : Bool
  multiLine : Bool
  dotAll : Bool
  verbose : Bool
  ascii : Bool
  deriving DecidableEq, Repr, Inhabited

def Options.plain : Options := ⟨false, false, false, false, false⟩

inductive Category where
  | digit | space | word
  deriving DecidableEq, Repr

def isAsciiSpace (c : Char) : Bool := (9 ≤ c.toNat && c.toNat ≤ 13) || c = ' '

def Category.holds (ascii : Bool) : Category → Char → Bool
  | .digit, c => if ascii then isAsciiDigit c else isDecimal c
  | .space, c => if ascii then isAsciiSpace c else isBlank c
  | .word, c => if ascii then isAsciiAlnum c || c = '_' else isWordChar c

/-- Small letters that share a capital with another small letter. -/
def caseFamilies : List (List Nat) :=
  [[0x69, 0x131], [0x73, 0x17F], [0xB5, 0x3BC], [0x345, 0x3B9, 0x1FBE], [0x390, 0x1FD3],
   [0x3B0, 0x1FE3], [0x3B2, 0x3D0], [0x3B5, 0x3F5], [0x3B8, 0x3D1], [0x3BA, 0x3F0],
   [0x3C0, 0x3D6], [0x3C1, 0x3F1], [0x3C2, 0x3C3], [0x3C6, 0x3D5], [0x432, 0x1C80],
   [0x434, 0x1C81], [0x43E, 0x1C82], [0x441, 0x1C83], [0x442, 0x1C84, 0x1C85],
   [0x44A, 0x1C86], [0x463, 0x1C87], [0x1E61, 0x1E9B], [0xA64B, 0x1C88], [0xFB05, 0xFB06]]

def foldCase (ascii : Bool) (c : Char) : Char := if ascii then lowerAscii c else foldChar c

/-- Small letters that count as one with a small letter. -/
def caseFamily (ascii : Bool) (n : Nat) : List Nat :=
  if ascii then [n] else (caseFamilies.find? (·.contains n)).getD [n]

/-- The numbers of all characters with a given small letter. -/
def withSmallLetter (ascii : Bool) (n : Nat) : List Nat :=
  let capital := if 97 ≤ n ∧ n ≤ 122 then [n - 32] else []
  let others := if ascii then [] else
    (lowerMapping.keys.toList.zip lowerMapping.images.toList).filterMap fun e =>
      if e.2.head? = some n then some e.1 else none
  n :: capital ++ others

/-- The numbers of the characters that cannot be told from one when case is ignored. -/
def caseVariants (ascii : Bool) (c : Char) : List Nat :=
  (caseFamily ascii (foldCase ascii c).toNat).flatMap (withSmallLetter ascii)

inductive ClassItem where
  | point (n : Nat)
  | range (lo hi : Nat)
  | category (k : Category) (negated : Bool)
  deriving DecidableEq, Repr

structure CharClass where
  negated : Bool
  items : List ClassItem
  deriving DecidableEq, Repr

def ClassItem.has (ascii : Bool) (i : ClassItem) (c : Char) : Bool :=
  match i with
  | .point n => c.toNat = n
  | .range lo hi => lo ≤ c.toNat && c.toNat ≤ hi
  | .category k negated => k.holds ascii c != negated

/-- The number of the small letter of a character given by number. -/
def foldNumber (ascii : Bool) (n : Nat) : Nat :=
  if n.isValidChar then (foldCase ascii (Char.ofNat n)).toNat else n

/-- Whether an item has a character or one of its variants in case. -/
def ClassItem.hasVariant (ascii : Bool) (i : ClassItem) (c : Char) : Bool :=
  match i with
  | .point n =>
      (caseFamily ascii (foldCase ascii c).toNat).contains (foldNumber ascii n)
  | .range lo hi => (caseVariants ascii c).any fun n => lo ≤ n && n ≤ hi
  | .category k negated => k.holds ascii (foldCase ascii c) != negated

def ClassItem.contains (o : Options) (i : ClassItem) (c : Char) : Bool :=
  if o.ignoreCase then i.hasVariant o.ascii c else i.has o.ascii c

def CharClass.contains (o : Options) (k : CharClass) (c : Char) : Bool :=
  k.items.any (·.contains o c) != k.negated

def CharClass.single (n : Nat) : CharClass := ⟨false, [.point n]⟩

/-- The category that a letter stands for after a backslash, and whether negated. -/
def categoryEscape? (c : Char) : Option ClassItem :=
  if c = 'd' then some (.category .digit false)
  else if c = 'D' then some (.category .digit true)
  else if c = 's' then some (.category .space false)
  else if c = 'S' then some (.category .space true)
  else if c = 'w' then some (.category .word false)
  else if c = 'W' then some (.category .word true)
  else none

/-- A character written by its number after one of the letters `x`, `u` and `U`. -/
def numberEscape? (c : Char) (rest : List Token) : Option (Except Fault (Nat × List Token)) :=
  if c = 'x' then some (takeHex 2 rest)
  else if c = 'u' then some (takeHex 4 rest)
  else if c = 'U' then some (takeHex 8 rest)
  else none

/-- An escaped character that stands for itself: anything but letters and digits. -/
def selfEscape (c : Char) : Except Fault Nat :=
  if isAsciiLetter c then .error .badPattern else .ok c.toNat

/-- The item of an escaped character in a class. -/
def classEscape (c : Char) (rest : List Token) : Except Fault (ClassItem × List Token) :=
  match controlEscape? c, categoryEscape? c, numberEscape? c rest with
  | some n, _, _ => .ok (.point n, rest)
  | _, some i, _ => .ok (i, rest)
  | _, _, some r => do
      let (n, left) ← r
      .ok (.point n, left)
  | none, none, none =>
      if isOctalDigit c then
        let r := takeUpTo isOctalDigit 2 rest
        let n := ofOctalDigits (c :: r.1)
        if n ≤ 0o377 then .ok (.point n, r.2) else .error .badPattern
      else if isAsciiDigit c then .error .badPattern
      else do .ok (.point (← selfEscape c), rest)

/-- One item of a class, before any hyphen is looked at. -/
def classUnit : List Token → Except Fault (ClassItem × List Token)
  | .plain c :: rest => .ok (.point c.toNat, rest)
  | .escaped c :: rest => classEscape c rest
  | _ => .error .badPattern

/-- The range between two items, which have to be points in increasing order. -/
def rangeOf : ClassItem → ClassItem → Except Fault ClassItem
  | .point lo, .point hi => if lo ≤ hi then .ok (.range lo hi) else .error .badPattern
  | _, _ => .error .badPattern

def classItems : Nat → Bool → List Token → Except Fault (List ClassItem × List Token)
  | 0, _, _ => .error .badPattern
  | fuel + 1, first, ts =>
      match first, ts with
      | false, .plain ']' :: rest => .ok ([], rest)
      | _, ts => do
          let (item, rest) ← classUnit ts
          match rest with
          | .plain '-' :: .plain ']' :: rest => .ok ([item, .point 45], rest)
          | .plain '-' :: rest => do
              let (other, rest) ← classUnit rest
              let range ← rangeOf item other
              let r ← classItems fuel false rest
              .ok (range :: r.1, r.2)
          | rest => do
              let r ← classItems fuel false rest
              .ok (item :: r.1, r.2)

def CharClass.read (ts : List Token) : Except Fault (CharClass × List Token) :=
  match ts with
  | .plain '^' :: rest => do
      let (items, left) ← classItems (rest.length + 1) true rest
      .ok (⟨true, items⟩, left)
  | rest => do
      let (items, left) ← classItems (rest.length + 1) true rest
      .ok (⟨false, items⟩, left)

end Vetting.Pattern
