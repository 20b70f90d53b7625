import Vetting.Address.Folding
import Vetting.Address.Label
import Vetting.Text.Printable
import Vetting.Text.Split
import Vetting.Text.Word

/-!
# Mail addresses

A mail address has a local part and a domain, parted by the first at sign. Both can be of
any script. The local part is made of atoms parted by points, and still is so in its
composed form; it is not quoted. The domain is a name of two labels or more, not an
address in brackets, and not under one of the names that never take mail.

The address may not be too long as it is written, in its composed form, or in its form
for ASCII.
-/
namespace Vetting.Address
open Text

/-- Characters of atoms besides letters, digits and what lies outside ASCII. -/
def atomSigns : List Char :=
  ['_', '!', '#', '$', '%', '&', '\'', '*', '+', '-', '/', '=', '?', '^', Char.ofNat 96, '\x7b',
   '|', '\x7d', '~']

def isAtomChar (c : Char) : Bool := isAsciiAlnum c || atomSigns.contains c || 128 ≤ c.toNat

/-- Whether a text can stand next to others without changing them or being changed: it
has no blanks, controls or unassigned characters and begins with no mark. -/
def isSound (s : List Char) : Bool :=
  s.all (fun c => c != ' ' && isPrintable c) && !s.head?.any isMark

def isLocalPart (s : List Char) : Bool :=
  (split '.' s).all (fun atom => !atom.isEmpty && atom.all isAtomChar) && isSound s

def isHostChar (c : Char) : Bool :=
  isAsciiAlnum c || c = '-' || c = '.' || 128 ≤ c.toNat

/-- Two characters before two hyphens are kept for marks of codes. -/
def hasUnknownMark (label : List Char) : Bool :=
  (label.drop 2).take 2 == ['-', '-'] && label.take 2 != codeMark.take 2

def isHostLabel (s : List Char) : Bool :=
  !s.isEmpty && s.head? != some '-' && s.getLast? != some '-' && !hasUnknownMark s

/-- Last labels of names that never take mail. -/
def specialNames : List String := ["arpa", "invalid", "local", "localhost", "onion", "test"]

def domainLimit : Nat := 253

def takesMail (labels : List (List Char)) : Bool :=
  2 ≤ labels.length && (join '.' labels).length ≤ domainLimit &&
    match labels.getLast? with
    | some last =>
        last.getLast?.any isAsciiLetter && !specialNames.contains (String.ofList last)
    | none => false

/-- The domain of a mail address in its own script and in ASCII. -/
structure MailDomain where
  script : List Char
  ascii : List Char
  deriving DecidableEq, Repr

def MailDomain.read? (s : List Char) : Option MailDomain :=
  if s.all isHostChar && isSound s then
    let folded := fold s
    let labels := split '.' folded
    if folded.all isHostChar && labels.all isHostLabel then do
      let ascii ← labels.mapM asciiLabel?
      let script ← ascii.mapM scriptLabel?
      if takesMail ascii then some ⟨join '.' script, join '.' ascii⟩ else none
    else none
  else none

def addressSizeLimit : Nat := 254

def fits (localPart domain : List Char) : Bool :=
  (String.ofList (localPart ++ '@' :: domain)).utf8ByteSize ≤ addressSizeLimit

def isEmail (s : List Char) : Bool :=
  let localPart := s.takeWhile (· != '@')
  match s.drop localPart.length with
  | [] => false
  | _ :: domain =>
      let composed := compose localPart
      isLocalPart localPart && isLocalPart composed &&
        match MailDomain.read? domain with
        | some d =>
            fits localPart domain && fits composed d.script && fits composed d.ascii
        | none => false

end Vetting.Address
