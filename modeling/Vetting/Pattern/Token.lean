import Vetting.Fault
import Vetting.Text.Digit
import Vetting.Text.Identifier

/-!
# Tokens of patterns

Patterns and replacements are read as a row of characters, some of them escaped by a
backslash. A backslash at the end escapes nothing and cannot be read. The small
readers here are shared by patterns and replacements.
-/
namespace Vetting.Pattern
open Text

inductive Token where
  | plain (c : Char)
  | escaped (c : Char)
  | broken
  deriving DecidableEq, Repr

def tokens : List Char → List Token
  | [] => []
  | ['\\'] => [.broken]
  | '\\' :: c :: rest => .escaped c :: tokens rest
  | c :: rest => .plain c :: tokens rest

def Token.spelling : Token → List Char
  | .plain c => [c]
  | .escaped c => ['\\', c]
  | .broken => ['\\']

/-- Lets reading go on unless a broken token comes next. -/
def unbroken : List Token → Except Fault (List Token)
  | .broken :: _ => .error .badPattern
  | rest => .ok rest

/-- The plain characters that satisfy a test, `n` of them at most. -/
def takeUpTo (test : Char → Bool) : Nat → List Token → List Char × List Token
  | n + 1, .plain c :: rest =>
      if test c then
        let r := takeUpTo test n rest
        (c :: r.1, r.2)
      else ([], .plain c :: rest)
  | _, rest => ([], rest)

/-- A name that is not empty, up to a plain character that closes it. -/
def takeName (close : Char) : List Token → Except Fault (List Char × List Token)
  | [] => .error .badPattern
  | t :: rest =>
      if t = .plain close then .error .badPattern else go t rest
where
  go : Token → List Token → Except Fault (List Char × List Token)
    | .broken, _ => .error .badPattern
    | t, [] => if t = .plain close then .ok ([], []) else .error .badPattern
    | t, u :: rest => do
        if t = .plain close then .ok ([], ← unbroken (u :: rest))
        else
          let r ← go u rest
          .ok (t.spelling ++ r.1, r.2)

def isOctalDigit (c : Char) : Bool := '0' ≤ c && c ≤ '7'

def isHexDigit (c : Char) : Bool :=
  isAsciiDigit c || ('a' ≤ c && c ≤ 'f') || ('A' ≤ c && c ≤ 'F')

def hexDigitValue (c : Char) : Nat :=
  if isAsciiDigit c then c.toNat - 48
  else if 'a' ≤ c ∧ c ≤ 'f' then c.toNat - 87
  else c.toNat - 55

def ofHexDigits (s : List Char) : Nat := s.foldl (fun n c => n * 16 + hexDigitValue c) 0

def ofOctalDigits (s : List Char) : Nat := s.foldl (fun n c => n * 8 + (c.toNat - 48)) 0

def takeHex (width : Nat) (ts : List Token) : Except Fault (Nat × List Token) :=
  let r := takeUpTo isHexDigit width ts
  if r.1.length = width ∧ ofHexDigits r.1 < 0x110000 then .ok (ofHexDigits r.1, r.2)
  else .error .badPattern

/-- The character that a letter stands for after a backslash. -/
def controlEscape? (c : Char) : Option Nat :=
  if c = 'a' then some 7
  else if c = 'b' then some 8
  else if c = 'f' then some 12
  else if c = 'n' then some 10
  else if c = 'r' then some 13
  else if c = 't' then some 9
  else if c = 'v' then some 11
  else if c = '\\' then some 92
  else none

/-- One more than the largest number a group may be asked for by. -/
def groupLimit : Nat := 1073741823

end Vetting.Pattern
