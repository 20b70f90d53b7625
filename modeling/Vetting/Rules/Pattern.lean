import Vetting.Pattern.Match
import Vetting.Pattern.Parse
import Vetting.Reading
import Vetting.Rules.Kind

/-!
# Rules that match patterns

The text of the value has to match as a whole. What is to be included in a class of
letters is put into the class as it stands, so it can hold ranges and escapes, and can
also close the class. Null matches nothing, and no pattern is read for it.
-/
namespace Vetting.Rules
open Vetting.Pattern

def matchesPattern (pattern : List Char) (v : Value) : Except Fault Bool :=
  match v with
  | .null => .ok false
  | v => do
      let s ← v.toText
      let p ← Regex.parse pattern
      .ok (p.matchesAll s.toList)

/-- One or more characters of a class, given by what stands between its brackets. -/
def classPattern (inside : List Char) : List Char := '[' :: inside ++ [']', '+']

def digits : Rule where
  label := "digits"
  signature := {}
  run v b := match b.given with
    | [] => do
        let matched ← orFail (matchesPattern (classPattern "0-9".toList) v)
        .ok (.verdict matched .null "digits" [])
    | _ => misbound

/-- A rule on characters of a class and blanks, to which others can be added. -/
def lettered (name : String) (letters : List Char) : Rule where
  label := name
  signature := { parameters := [⟨"including", some (.text ""), false⟩] }
  run v b := match b.given with
    | [including] => do
        let more ← orFail including.display
        let matched ← orFail
          (matchesPattern (classPattern (letters ++ more.toList ++ [' '])) v)
        .ok (.verdict matched .null name [])
    | _ => misbound

def alpha : Rule := lettered "alpha" "a-zA-Z".toList

def alphanumeric : Rule := lettered "alphanumeric" "a-zA-Z0-9".toList

end Vetting.Rules
