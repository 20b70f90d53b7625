import Vetting.Text.Split
import Vetting.Translator
import Vetting.Value.Equality

/-!
# Catalogs

A catalog is a file with templates under keys, or with such templates under the names of
locales. What it says is laid over other templates, so that a key it does not have keeps
the template it had. Keys and templates are texts, whatever the file has them as. What
the text of a file says is for a reader of documents to tell. It is told as a value, and no
value has itself in it.

A catalog that cannot be used is refused. Only a scalar without a value, a value without
a text and a locale of a kind that the file cannot be asked for end in a fault instead.
-/
namespace Vetting.Catalog

def steps (path : String) : List (List Char) :=
  (Text.split '/' path.toList).filter fun s => !s.isEmpty && s != ['.']

def leadsDown (path : String) : Bool :=
  path.toList.head? != some '/' && !(steps path).contains ['.', '.']

/-- The text of the file at a path; of two files at one path the later counts. -/
def fileAt? (files : Named String) (path : String) : Option String :=
  if leadsDown path && !(steps path).isEmpty then
    (files.reverse.find? fun f => steps f.1 == steps path).map Prod.snd
  else none

def itemAt (xs : List Value) (n : Int) : Except Fault Value :=
  let i := if n < 0 then n + xs.length else n
  if i < 0 then .error .outOfRange
  else match xs[i.toNat]? with
    | some v => .ok v
    | none => .error .outOfRange

/-- What stands under a member of a collection. Only lists and tuples have something there, and
only under integers. -/
def underMember (data locale : Value) : Except Fault Value :=
  match data, locale with
  | .list xs, .int n => itemAt xs n
  | .list xs, .bool b => itemAt xs (if b then 1 else 0)
  | .tuple xs, .int n => itemAt xs n
  | .tuple xs, .bool b => itemAt xs (if b then 1 else 0)
  | _, _ => .error .wrongKind

/-- Whether the data of a catalog has a locale, and what it has there. -/
def under? (data locale : Value) : Except Fault (Option Value) :=
  match data with
  | .dict es => if locale.isHashable then .ok (locale.lookup es) else .error .wrongKind
  | .list xs => do
      if ← Value.holdsOfOne locale.equal xs then (underMember data locale).map some
      else .ok none
  | .tuple xs => do
      if ← Value.holdsOfOne locale.equal xs then (underMember data locale).map some
      else .ok none
  | .set xs =>
      if !locale.isHashable then .error .wrongKind
      else if xs.any locale.sameKey then (underMember data locale).map some
      else .ok none
  | .text s =>
      match locale with
      | .text t => if Text.isPart t.toList s.toList then .error .wrongKind else .ok none
      | _ => .error .wrongKind
  | _ => .error .wrongKind

/-- The part of a catalog for a locale; all of it if there is none. -/
def part (path : String) (locale data : Value) : Except Failure Value :=
  if locale.isNull then .ok data
  else do
    match ← orFail (under? data locale) with
    | some v => .ok v
    | none => .error (.localeMissing locale path)

def templates (es : List (Value × Value)) : Except Fault (Named Value) :=
  es.mapM fun e => do .ok (← e.1.display, .text (← e.2.display))

/-- The templates of a catalog, from what was read. Data that counts as no is taken for
an empty dictionary. -/
def ofDocument (path : String) (locale : Value) (fallback : Named Value)
    (document : Except Trouble Value) : Except Failure (Named Value) :=
  match document with
  | .error .malformed => .error (.catalogMalformed path true)
  | .error (.fault f) => .error (.fault f)
  | .ok v => do
      match ← part path locale (if v.truth then v else .dict []) with
      | .dict es => do .ok (Named.overlay fallback (← orFail (templates es)))
      | _ => .error (.catalogMalformed path false)

def load (read : String → Except Trouble Value) (files : Named String) (path locale : Value)
    (fallback : Named Value) : Except Failure (Named Value) :=
  match path with
  | .text p =>
      match fileAt? files p with
      | some s => ofDocument p locale fallback (read s)
      | none => .error (.catalogMissing p)
  | _ => .error (.fault .wrongKind)

end Vetting.Catalog
