import Vetting.Chain.Run
import Vetting.Place

/-!
# Rules for fields

Rules can be laid down for the fields of a dictionary, each field being a path with
expressions. The fields are taken one after the other: the value at the path is checked
on a chain of its own, and what comes out is written back if it is another value or of
another kind. The first field that fails ends the run; what was written before stays.

A path that starts with the sign for it is sensitive.
-/
namespace Vetting

/-- The path of a field and whether it is sensitive. -/
def splitField (s : String) : String × Bool :=
  match s.toList with
  | '#' :: rest => (String.ofList rest, true)
  | _ => (s, false)

/-- Expressions that are alternatives to each other, as texts. -/
def expressionsOf (rules : Value) : Except Fault (List String) :=
  match rules.items? with
  | some xs => xs.mapM Value.display
  | none => rules.display.map fun s => [s]

namespace Run

def applyExpressions (σ : Setting) : Nat → List String → Run Nat
  | i, [] => pure i
  | i, e :: rest => do
      let j ← rules σ i e
      match rest with
      | [] => return j
      | _ => applyExpressions σ (← fork j) rest

/-- A chain for a field of the value of a node, with the alternatives of that node. -/
def fieldNode (i : Nat) (field : String) (sensitive : Bool) (v : Value) : Run Nat := do
  let n ← nodeAt i
  let c ← store v
  addNode ⟨c, c, some field, sensitive, n.parent, []⟩

def writeBack (cell : Nat) (path : String) (v : Value) : Run Unit := do
  let r := Path.write path ((← get).cell cell) v
  modify fun w => { w with cells := w.cells.setIfInBounds cell r.1 }
  ofExcept r.2

def applyField (σ : Setting) (i : Nat) (field : String) (fieldRules : Value) : Run Unit := do
  let container := (← nodeAt i).value
  let (path, sensitive) := splitField field
  let current ← ofFault (Path.read path ((← get).cell container) .null)
  let start ← fieldNode i path sensitive current
  let j ← applyExpressions σ start (← ofFault (expressionsOf fieldRules))
  discard (validate σ j)
  let w ← get
  let result := w.result? j
  let changed := w.get j
  let differs ← ofFault (changed.differs (result == some (w.node start).value) current)
  if differs || changed.kind != current.kind then
    log .debug ("Writing back transformed value for '" ++ path ++ "'")
    writeBack container path changed

def applyFields (σ : Setting) (i : Nat) (fields : Named Value) : Run Nat := do
  match (← get).value i with
  | .dict _ =>
      fields.forM fun f => applyField σ i f.1 f.2
      return i
  | v => throw (.notAContainer v.kind)

end Run

end Vetting
