import Vetting.Log
import Vetting.Translator

/-!
# Chains

A chain is a node with a value, the checks made on it, and perhaps a parent: the
alternative it falls back on. Nodes only ever gain checks and descendants, so a world
keeps them in the order in which they were made, and a parent stands before its
children.

Values lie in cells. Nodes that hold the very same container share its cell, which is
how a container that is written to shows its new content in all of them. Cells hold whole
values only: a container that is put into another one is taken over as it is then, without
a cell of its own there.
-/
namespace Vetting

inductive Check where
  | passed (label : Value)
  | failed (message : String)

namespace Check

def hasPassed : Check → Bool
  | .passed _ => true
  | .failed _ => false

def error? : Check → Option String
  | .passed _ => none
  | .failed m => some m

/-- What stands beside the verdict: the label of a check that passed, else its message. -/
def note : Check → Value
  | .passed v => v
  | .failed m => .text m

end Check

structure Node where
  /-- The cells of the current value and of the one that the chain started from. -/
  value : Nat
  initial : Nat
  field : Option String
  sensitive : Bool
  parent : Option Nat
  checks : List Check
  deriving Inhabited

namespace Node

def errors (n : Node) : List String := n.checks.filterMap Check.error?

def hasErrors (n : Node) : Bool := n.checks.any fun c => !c.hasPassed

def isClean (n : Node) : Bool := !n.hasErrors

end Node

/-- A message that was asked for: its key and its named values. -/
structure Call where
  key : Value
  context : Named Value

structure World where
  cells : Array Value
  nodes : Array Node
  calls : Array Call
  records : Array Record
  mark : Mark

def initialMark : Mark := .given "-"

namespace World

def empty : World := ⟨#[], #[], #[], #[], initialMark⟩

def cell (w : World) (c : Nat) : Value := w.cells.getD c .null

def node (w : World) (i : Nat) : Node := w.nodes.getD i default

/-- A node and its ancestors, nearest first. -/
def lineage (w : World) (i : Nat) : List Node :=
  match (w.node i).parent with
  | none => [w.node i]
  | some p => if p < i then w.node i :: w.lineage p else [w.node i]
termination_by i

def ancestors (w : World) (i : Nat) : List Node := (w.lineage i).tail

def valid (w : World) (i : Nat) : Bool := (w.lineage i).any Node.isClean

def hasErrors (w : World) (i : Nat) : Bool := !w.valid i

def errors (w : World) (i : Nat) : List String :=
  if w.valid i then [] else (w.lineage i).flatMap Node.errors

/-- The cell of the nearest clean node. -/
def result? (w : World) (i : Nat) : Option Nat :=
  ((w.lineage i).find? Node.isClean).map Node.value

/-- The value of the nearest clean node, null if there is none. -/
def get (w : World) (i : Nat) : Value := ((w.result? i).map w.cell).getD .null

def initial (w : World) (i : Nat) : Value := w.cell (w.node i).initial

def value (w : World) (i : Nat) : Value := w.cell (w.node i).value

end World

end Vetting
