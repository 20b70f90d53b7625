import Vetting.Named
import Vetting.Template.Basic
import Vetting.Template.Written
import Vetting.Value.Equality

/-!
# Filling templates

A field takes its value from a context of named values. A name that the context does
not have stands for itself, as it would be written in a template: the text of the name
in braces, which then is treated like any other value. Fields by position are faults.
The members of a value are for the surroundings to tell; they can lead to things that are
no values.

A layout can hold fields of its own, whose layouts have to be plain.
-/
namespace Vetting.Template
open Text Number

def placeholder (name : List Char) : Value :=
  .text (String.ofList (openBrace :: name ++ [closeBrace]))

def atIndex (xs : List Value) (n : Nat) : Except Fault Value :=
  match xs[n]? with
  | some v => .ok v
  | none => .error .outOfRange

def underKey (k : Value) (es : List (Value × Value)) : Except Fault Value :=
  match Value.lookup k es with
  | some v => .ok v
  | none => .error .noKey

/-- Something that is no value, such as a kind, or what a value can do. It goes by a name. -/
structure Thing where
  group : String
  name : String

inductive Referent where
  | value (v : Value)
  | thing (t : Thing)

/-- What goes by a name after a dot, and what comes of the things that it leads to. -/
structure Members where
  member : Referent → String → Except Fault Referent
  item : Thing → List Char → Except Fault Referent
  index : Thing → Nat → Except Fault Referent
  display : Thing → Except Fault String
  literal : Thing → Except Fault String
  layOut : Thing → List Char → Except Fault (List Char)

/-- Nothing has members. -/
def Members.none : Members where
  member _ _ := .error .noMember
  item _ _ := .error .wrongKind
  index _ _ := .error .wrongKind
  display _ := .error .wrongKind
  literal _ := .error .wrongKind
  layOut _ _ := .error .wrongKind

namespace Referent

def display (m : Members) : Referent → Except Fault String
  | .value v => v.display
  | .thing t => m.display t

def literal (m : Members) : Referent → Except Fault String
  | .value v => v.literal
  | .thing t => m.literal t

/-- The text of a referent in a layout. -/
def laidOut (m : Members) (r : Referent) (layout : List Char) : Except Fault (List Char) :=
  match r with
  | .value v => layOut v layout
  | .thing t => m.layOut t layout

end Referent

def itemOf (v : Value) (key : List Char) : Except Fault Value :=
  match v with
  | .dict es => underKey (.text (String.ofList key)) es
  | _ => .error .wrongKind

def indexOf (v : Value) (n : Nat) : Except Fault Value :=
  match v with
  | .dict es => underKey (.int n) es
  | .list xs => atIndex xs n
  | .tuple xs => atIndex xs n
  | .text s => atIndex (s.toList.map fun c => .text (String.ofList [c])) n
  | .bytes bs => atIndex (bs.map fun b => .int b.toNat) n
  | _ => .error .wrongKind

/-- One step from a referent to a part of it. -/
def Accessor.follow (m : Members) (r : Referent) (a : Accessor) : Except Fault Referent :=
  match a, r with
  | .member name, r => m.member r (String.ofList name)
  | .item key, .value v => (itemOf v key).map .value
  | .item key, .thing t => m.item t key
  | .index n, .value v => (indexOf v n).map .value
  | .index n, .thing t => m.index t n
  | .broken, _ => .error .badValue

def Field.find (m : Members) (context : Named Value) (f : Field) : Except Fault Referent :=
  if f.name.isEmpty || isPositional f.name then .error .badValue
  else
    f.accessors.foldlM (Accessor.follow m)
      (.value ((Named.get? (String.ofList f.name) context).getD (placeholder f.name)))

/-- A text in ASCII, other characters written by number. -/
def asciiText (s : List Char) : List Char :=
  s.flatMap fun c => if c.toNat < 128 then [c] else numberEscape c.toNat

/-- Turns a referent into text where a field asks for it. -/
def Field.convert (m : Members) (f : Field) (r : Referent) : Except Fault Referent :=
  let text (s : String) : Referent := .value (.text s)
  match f.conversion with
  | none => .ok r
  | some 's' => (r.display m).map text
  | some 'r' => (r.literal m).map text
  | some 'a' => (r.literal m).map fun s => text (String.ofList (asciiText s.toList))
  | some _ => .error .badValue

/-- Fills a template in, whose layouts may hold fields down to some depth. -/
def renderWithin (m : Members) (context : Named Value) : Nat → List Char →
    Except Fault (List Char)
  | 0, _ => .error .badValue
  | depth + 1, s => do
      let texts ← (parts s).mapM fun p => match p with
        | .text t => .ok t
        | .broken => .error .badValue
        | .field f => do
            let r ← f.convert m (← f.find m context)
            let layout ←
              if f.layout.contains openBrace then renderWithin m context depth f.layout
              else .ok f.layout
            r.laidOut m layout
      .ok texts.flatten

def render (m : Members) (context : Named Value) (s : String) : Except Fault String :=
  (renderWithin m context 2 s.toList).map String.ofList

end Vetting.Template
