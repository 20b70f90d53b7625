import Vetting.Text.Digit

/-!
# Templates

A template is text with fields in braces; a doubled brace stands for one. A field
names something, goes on to members and items of it, and can ask for a conversion and
a layout. What cannot be read is kept as a broken part where it stands, because what
comes before it is filled in first.
-/
namespace Vetting.Template
open Text

inductive Accessor where
  | member (name : List Char)
  | item (key : List Char)
  | index (n : Nat)
  | broken
  deriving DecidableEq, Repr

structure Field where
  name : List Char
  accessors : List Accessor
  conversion : Option Char
  layout : List Char
  deriving DecidableEq, Repr

inductive Part where
  | text (s : List Char)
  | field (f : Field)
  | broken
  deriving DecidableEq, Repr

def openBrace : Char := '\x7b'

def closeBrace : Char := '\x7d'

/-- Whether a name is a number, and then stands for a position. -/
def isPositional (s : List Char) : Bool := !s.isEmpty && s.all isDecimal

def startsAccessor (c : Char) : Bool := c = '.' || c = '['

def indexLimit : Nat := Nat.pow 2 63 - 1

def itemAccessor (s : List Char) : Accessor :=
  if s.isEmpty then .broken
  else if isPositional s then
    let n := ofDigits (digitValues s)
    if n ≤ indexLimit then .index n else .broken
  else .item s

def readAccessors : Nat → List Char → List Accessor
  | 0, _ => [.broken]
  | _ + 1, [] => []
  | fuel + 1, c :: rest =>
      if c = '.' then
        let name := rest.takeWhile fun d => !startsAccessor d
        if name.isEmpty then [.broken]
        else .member name :: readAccessors fuel (rest.drop name.length)
      else if c = '[' then
        let key := rest.takeWhile (· != ']')
        if key.length = rest.length then [.broken]
        else match itemAccessor key with
          | .broken => [.broken]
          | a => a :: readAccessors fuel (rest.drop (key.length + 1))
      else [.broken]

/-- Splits what stands in front of the colon of a field. -/
def Field.ofName (s : List Char) (conversion : Option Char) (layout : List Char) : Field :=
  let name := s.takeWhile fun c => !startsAccessor c
  let rest := s.drop name.length
  ⟨name, readAccessors (rest.length + 1) rest, conversion, layout⟩

/-- The name of a field, the character that ends it, and what follows. Inside brackets
nothing ends a name. -/
def takeFieldName (bracketed : Bool) : List Char → Option (List Char × Char × List Char)
  | [] => none
  | c :: rest =>
      if bracketed && c != ']' then
        (takeFieldName true rest).map fun r => (c :: r.1, r.2)
      else if c = openBrace then none
      else if c = closeBrace || c = ':' || c = '!' then some ([], c, rest)
      else (takeFieldName (c == '[') rest).map fun r => (c :: r.1, r.2)

/-- A layout up to the brace that closes its field; `depth` braces are open inside. -/
def takeLayout (depth : Nat) : List Char → Option (List Char × List Char)
  | [] => none
  | c :: rest =>
      if c = closeBrace then
        match depth with
        | 0 => some ([], rest)
        | d + 1 => (takeLayout d rest).map fun r => (c :: r.1, r.2)
      else
        (takeLayout (if c = openBrace then depth + 1 else depth) rest).map
          fun r => (c :: r.1, r.2)

def takeField (s : List Char) : Option (Field × List Char) :=
  match takeFieldName false s with
  | none => none
  | some (name, stop, rest) =>
      if stop = closeBrace then some (.ofName name none [], rest)
      else if stop = ':' then
        (takeLayout 0 rest).map fun r => (.ofName name none r.1, r.2)
      else
        match rest with
        | c :: d :: rest =>
            if d = closeBrace then some (.ofName name (some c) [], rest)
            else if d = ':' then
              (takeLayout 0 rest).map fun r => (.ofName name (some c) r.1, r.2)
            else none
        | _ => none

/-- Reads a template, with a bound on the number of its parts. -/
def partsWithin : Nat → List Char → List Part
  | 0, _ => [.broken]
  | _ + 1, [] => []
  | fuel + 1, c :: rest =>
      if c = openBrace then
        match rest with
        | [] => [.broken]
        | d :: more =>
            if d = openBrace then .text [openBrace] :: partsWithin fuel more
            else match takeField rest with
              | some (f, left) => .field f :: partsWithin fuel left
              | none => [.broken]
      else if c = closeBrace then
        match rest with
        | d :: more =>
            if d = closeBrace then .text [closeBrace] :: partsWithin fuel more else [.broken]
        | [] => [.broken]
      else .text [c] :: partsWithin fuel rest

def parts (s : List Char) : List Part := partsWithin (s.length + 1) s

end Vetting.Template
