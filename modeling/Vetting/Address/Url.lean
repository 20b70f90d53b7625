import Vetting.Address.Ip
import Vetting.Text.Blank
import Vetting.Text.Word

/-!
# Locators

A locator has a scheme, and an authority after two slashes. Only a few schemes do
without an authority, and then need a path. Blanks are not allowed anywhere, control
characters in front of the scheme are passed over. An authority may not hold characters
that stand for marks of the syntax, and what it has in brackets has to be an address.
-/
namespace Vetting.Address
open Text

def isSchemeChar (c : Char) : Bool :=
  isAsciiAlnum c || c = '+' || c = '-' || c = '.'

/-- Characters whose compatible form has a slash, a question mark, a number sign, an at
sign or a colon in it. -/
def syntaxLike : List Nat :=
  [0x2047, 0x2048, 0x2049, 0x2100, 0x2101, 0x2105, 0x2106, 0x2A74, 0xFE13, 0xFE16, 0xFE55,
   0xFE56, 0xFE5F, 0xFE6B, 0xFF03, 0xFF0F, 0xFF1A, 0xFF1F, 0xFF20]

structure Url where
  scheme : List Char
  authority : List Char
  path : List Char
  deriving DecidableEq, Repr

def takeScheme (s : List Char) : List Char × List Char :=
  let front := s.takeWhile (· != ':')
  match front, s.drop front.length with
  | c :: _, _ :: rest =>
      if isAsciiLetter c && front.all isSchemeChar then
        (front.map fun c => if 'A' ≤ c ∧ c ≤ 'Z' then Char.ofNat (c.toNat + 32) else c, rest)
      else ([], s)
  | _, _ => ([], s)

def endsAuthority (c : Char) : Bool := c = '/' || c = '?' || c = '#'

def takeAuthority : List Char → List Char × List Char
  | '/' :: '/' :: rest =>
      (rest.takeWhile fun c => !endsAuthority c, rest.dropWhile fun c => !endsAuthority c)
  | s => ([], s)

/-- A form kept for future versions: a letter, hexadecimal digits, a point and more. -/
def isFutureAddress (s : List Char) : Bool :=
  match s with
  | 'v' :: rest =>
      let ds := rest.takeWhile isGroupDigit
      !ds.isEmpty &&
        match rest.drop ds.length with
        | '.' :: more => !more.isEmpty
        | _ => false
  | _ => false

/-- The text between the first opening bracket and the first closing one after it. -/
def bracketedHost (s : List Char) : List Char :=
  ((s.dropWhile (· != '[')).drop 1).takeWhile (· != ']')

def hasGoodHost (authority : List Char) : Bool :=
  match authority.contains '[', authority.contains ']' with
  | false, false => true
  | true, true =>
      let host := bracketedHost authority
      if host.head? == some 'v' then isFutureAddress host else version? host == some 6
  | _, _ => false

def hasSyntaxLike (s : List Char) : Bool := s.any fun c => syntaxLike.contains c.toNat

/-- Characters that are passed over in front. -/
def isControlOrSpace (c : Char) : Bool := c.toNat ≤ 32

def Url.read? (s : List Char) : Option Url :=
  let (scheme, rest) := takeScheme (s.dropWhile isControlOrSpace)
  let (authority, rest) := takeAuthority rest
  if hasGoodHost authority && !hasSyntaxLike authority then
    some ⟨scheme, authority, rest.takeWhile fun c => c != '#' && c != '?'⟩
  else none

def pathSchemes : List String := ["mailto", "news", "file"]

def isUrl (s : List Char) : Bool :=
  if s.any isBlank then false
  else match Url.read? s with
    | none => false
    | some u =>
        if u.scheme.isEmpty then false
        else if pathSchemes.contains (String.ofList u.scheme) then
          !u.path.isEmpty || !u.authority.isEmpty
        else !u.authority.isEmpty

end Vetting.Address
