import Vetting.Pattern.Replacement
import Vetting.Reading
import Vetting.Rules.Length
import Vetting.Text.Split

/-!
# Rules that change text

Each of these rules puts a text in the place of the value, made from the value's text.
The value is read before the arguments are looked at, except where the comment of a
rule says otherwise.
-/
namespace Vetting.Rules
open Vetting.Text Vetting.Pattern

def replacedText (s : List Char) : Outcome := .replaced (.text (String.ofList s))

def textRule (name : String) (f : List Char → List Char) : Rule where
  label := name
  signature := {}
  run v b := match b.given with
    | [] => do
        let s ← orFail v.toText
        .ok (replacedText (f s.toList))
    | _ => misbound

def asTrim : Rule := textRule "asTrim" trim

def asUppercase : Rule := textRule "asUppercase" upper

def asLowercase : Rule := textRule "asLowercase" lower

def extract (pattern s : List Char) : Except Fault (List Char) := do
  let p ← Regex.parse pattern
  .ok (p.replace none (fun _ => []) s)

/-- The pattern for every character outside a class. -/
def outsidePattern (inside : List Char) : List Char := '[' :: '^' :: inside ++ [']']

/-- Keeps the characters of a class. The class is put into brackets as it stands. -/
def asExtract : Rule where
  label := "asExtract"
  signature := { parameters := [⟨"char_class", none, false⟩] }
  run v b := match b.given with
    | [k] => do
        let inside ← orFail k.display
        let s ← orFail v.toText
        .ok (replacedText (← orFail (extract (outsidePattern inside.toList) s.toList)))
    | _ => misbound

def asDigits : Rule where
  label := "asDigits"
  signature := {}
  run v b := match b.given with
    | [] => do
        let s ← orFail v.toText
        .ok (replacedText (← orFail (extract (outsidePattern "0-9".toList) s.toList)))
    | _ => misbound

/-- A text of at most `size` characters, its ending counted, if the ending fits at all. -/
def truncate (size : Int) (ending s : List Char) : List Char :=
  if size < s.length then s.take (size - ending.length).toNat ++ ending else s

def defaultEnding : String := "..."

/-- Cuts a text; the ending is looked at only if there is something to cut. -/
def truncated (v size ending : Value) : Except Failure Outcome := do
  let s ← orFail v.toText
  let n ← intArgument "asTruncate" size
  match ending with
  | .text e => .ok (replacedText (truncate n e.toList s.toList))
  | _ => if n < s.length then misbound else .ok (replacedText s.toList)

def asTruncate : Rule where
  label := "asTruncate"
  signature := { parameters :=
    [⟨"size", none, false⟩, ⟨"end", some (.text defaultEnding), false⟩] }
  run v b := match b.given with
    | [size, ending] => truncated v size ending
    | _ => misbound

def asLimit : Rule where
  label := "asLimit"
  signature := { parameters := [⟨"size", none, false⟩] }
  run v b := match b.given with
    | [size] => truncated v size (.text "")
    | _ => misbound

def asReplace : Rule where
  label := "asReplace"
  signature := { parameters := [xParameter, yParameter] }
  run v b := match b.given with
    | [x, y] => do
        let s ← orFail v.toText
        match x, y with
        | .text old, .text new =>
            .ok (replacedText (replaceAll old.toList new.toList s.toList))
        | _, _ => misbound
    | _ => misbound

/-- The characters of a byte sequence, one for each byte. -/
def bytesText (bs : List UInt8) : List Char := bs.map fun b => Char.ofNat b.toNat

/-- The largest number of replacements that can be asked for is one less. -/
def replacementLimit : Nat := Nat.pow 2 63

/-- Reads what matches are to be replaced with, and whether it is text throughout. A
byte sequence is read like a text, but what it holds of its own cannot be put into
one. -/
def replacementOf (p : Regex) : Value → Except Fault (Bool × List Piece)
  | .text s => (readReplacement p s.toList).map fun ps => (true, ps)
  | .bytes bs => (readReplacement p (bytesText bs)).map fun ps =>
      (ps.all fun piece => match piece with
        | .group _ => true
        | .text _ => false, ps)
  | _ => .error .wrongKind

/-- Replaces the matches of a pattern, no more than `count` of them unless it is zero. -/
def substitute (pattern replacement : Value) (s : List Char) (count : Nat) :
    Except Fault (List Char) := do
  let p ← match pattern with
    | .text e => Regex.parse e.toList
    | .bytes bs => Regex.parse (bytesText bs)
    | _ => .error .wrongKind
  if replacementLimit ≤ count then .error .tooLarge
  else
    let (isText, ps) ← replacementOf p replacement
    if pattern.isText && (isText || !p.occursIn s) then
      .ok (p.replace (if count = 0 then none else some count) (fillPieces ps) s)
    else .error .wrongKind

def asPregReplace : Rule where
  label := "asPregReplace"
  signature := { parameters :=
    [⟨"pattern", none, false⟩, ⟨"replacement", none, false⟩, ⟨"limit", some (.int (-1)), false⟩] }
  run v b := match b.given with
    | [pattern, replacement, limit] => do
        let n ← intArgument "asPregReplace" limit
        let s ← orFail v.toText
        .ok (replacedText (← orFail (substitute pattern replacement s.toList n.toNat)))
    | _ => misbound

end Vetting.Rules
