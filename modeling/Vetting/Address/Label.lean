import Vetting.Address.Direction
import Vetting.Address.Punycode
import Vetting.Address.Repertoire
import Vetting.Text.Mark

/-!
# Labels

A label of a domain name has a form in its own script and a form in ASCII, in which a
mark in front tells that the rest is Punycode. A label that is in ASCII without the mark
is its own form in both.
-/
namespace Vetting.Address
open Text

def hasGoodHyphens (s : List Char) : Bool :=
  (s.drop 2).take 2 != ['-', '-'] && s.head? != some '-' && s.getLast? != some '-'

def isScriptLabel (s : List Char) : Bool :=
  !s.isEmpty && compose s == s && hasGoodHyphens s && !s.head?.any isMark &&
    areAllPermitted [] s && isDirected (s.map direction)

def codeMark : List Char := ['x', 'n', '-', '-']

/-- The form of a label in its own script, out of its form in ASCII. -/
def scriptLabel? (s : List Char) : Option (List Char) :=
  if codeMark.isPrefixOf s then
    let code := s.drop codeMark.length
    if code.isEmpty || code.getLast? == some '-' then none
    else (Punycode.decode? code).filter isScriptLabel
  else if isScriptLabel s then some s
  else none

def labelLimit : Nat := 63

def asciiLabel? (s : List Char) : Option (List Char) :=
  let coded :=
    if s.all Punycode.isBasic then (scriptLabel? s).map fun _ => s
    else if isScriptLabel s then some (codeMark ++ Punycode.encode s)
    else none
  coded.filter fun t => t.length ≤ labelLimit

end Vetting.Address
