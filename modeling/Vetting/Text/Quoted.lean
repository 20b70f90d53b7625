import Vetting.Text.Printable

/-!
# Quoted literals

A text is written between apostrophes, or between double quotes when it holds an
apostrophe and no double quote. Inside, the quote in use and the backslash are
escaped, three control characters have short escapes, and what is not printable is
written by number. Bytes follow the same rule with everything outside ASCII
written by number.
-/
namespace Vetting.Text

def hexDigit (n : Nat) : Char := if n < 10 then Char.ofNat (48 + n) else Char.ofNat (87 + n)

def hexField : Nat → Nat → List Char
  | 0, _ => []
  | width + 1, n => hexField width (n / 16) ++ [hexDigit (n % 16)]

def quoteFor (s : List Char) : Char :=
  if s.contains '\'' && !s.contains '"' then '"' else '\''

/-- Escape of a character by number, as short as the number allows. -/
def numberEscape (n : Nat) : List Char :=
  if n < 256 then '\\' :: 'x' :: hexField 2 n
  else if n < 65536 then '\\' :: 'u' :: hexField 4 n
  else '\\' :: 'U' :: hexField 8 n

def escapeChar (quote c : Char) : List Char :=
  if c = quote ∨ c = '\\' then ['\\', c]
  else if c = '\n' then ['\\', 'n']
  else if c = '\r' then ['\\', 'r']
  else if c = '\t' then ['\\', 't']
  else if isPrintable c then [c]
  else numberEscape c.toNat

def quoted (s : List Char) : List Char :=
  let q := quoteFor s
  q :: s.flatMap (escapeChar q) ++ [q]

def escapeByte (quote : Char) (b : UInt8) : List Char :=
  let c := Char.ofNat b.toNat
  if b.toNat < 127 then escapeChar quote c else numberEscape b.toNat

def quotedBytes (bs : List UInt8) : List Char :=
  let q := quoteFor (bs.map fun b => Char.ofNat b.toNat)
  'b' :: q :: bs.flatMap (escapeByte q) ++ [q]

end Vetting.Text
