import Vetting.Pattern.Match
import Vetting.Pattern.Parse

/-!
# Replacements

A replacement is text with references to groups. Group zero is the whole match, and a
group that has matched nothing leaves nothing. Unknown escapes of letters cannot be
read; other escaped characters keep their backslash. A replacement without a
backslash is taken as it stands.
-/
namespace Vetting.Pattern
open Text

inductive Piece where
  | text (s : List Char)
  | group (index : Nat)
  deriving DecidableEq, Repr

def groupPiece (p : Regex) (index : Nat) : Except Fault Piece :=
  if index ≤ p.groups then .ok (.group index) else .error .badPattern

def namedPiece (p : Regex) (name : List Char) : Except Fault Piece :=
  if isIdentifier name then
    match p.names.find? (·.1 == name) with
    | some (_, index) => .ok (.group index)
    | none => .error .outOfRange
  else
    match Number.readInt? name with
    | some n =>
        if 0 ≤ n ∧ n < groupLimit then groupPiece p n.toNat else .error .badPattern
    | none => .error .badPattern

/-- A reference or an octal number that starts with a digit other than zero. -/
def digitPiece (p : Regex) (c : Char) (rest : List Token) : Except Fault (Piece × List Token) :=
  let second := takeUpTo isAsciiDigit 1 rest
  let third : List Char × List Token := match second.1 with
    | [d] =>
        if isOctalDigit c && isOctalDigit d then takeUpTo isOctalDigit 1 second.2
        else ([], second.2)
    | _ => ([], second.2)
  if third.1.isEmpty then do
    .ok (← groupPiece p (ofDigits (digitValues (c :: second.1))), third.2)
  else
    let n := ofOctalDigits (c :: second.1 ++ third.1)
    if n ≤ 0o377 then .ok (.text [Char.ofNat n], third.2) else .error .badPattern

def escapedPiece (p : Regex) (c : Char) (rest : List Token) :
    Except Fault (Piece × List Token) :=
  if c = 'g' then
    match rest with
    | .plain '<' :: rest => do
        let (name, rest) ← takeName '>' rest
        .ok (← namedPiece p name, rest)
    | _ => .error .badPattern
  else if c = '0' then
    let r := takeUpTo isOctalDigit 2 rest
    .ok (.text [Char.ofNat (ofOctalDigits r.1)], r.2)
  else if isAsciiDigit c then digitPiece p c rest
  else
    match controlEscape? c with
    | some n => .ok (.text [Char.ofNat n], rest)
    | none => if isAsciiLetter c then .error .badPattern else .ok (.text ['\\', c], rest)

def pieces (p : Regex) : Nat → List Token → Except Fault (List Piece)
  | 0, _ => .error .badPattern
  | _ + 1, [] => .ok []
  | _ + 1, .broken :: _ => .error .badPattern
  | fuel + 1, .plain c :: rest => do .ok (.text [c] :: (← pieces p fuel rest))
  | fuel + 1, .escaped c :: rest => do
      let (piece, rest) ← escapedPiece p c (← unbroken rest)
      .ok (piece :: (← pieces p fuel rest))

def readReplacement (p : Regex) (s : List Char) : Except Fault (List Piece) :=
  if s.contains '\\' then
    let ts := tokens s
    pieces p (ts.length + 1) ts
  else .ok [.text s]

def Piece.fill (m : Found) : Piece → List Char
  | .text s => s
  | .group 0 => m.text
  | .group i => (m.stop.group? i).getD []

/-- What a match is replaced with. -/
def fillPieces (ps : List Piece) (m : Found) : List Char := ps.flatMap (·.fill m)

end Vetting.Pattern
