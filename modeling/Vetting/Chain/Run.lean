import Vetting.Chain.World
import Vetting.Expression
import Vetting.Rule.Basic

/-!
# Working on chains

Everything that can be done to a node. A run changes the world and may fail; what it
has changed before it fails stays. A check is added to the node it is made on, while a
new value makes a new node that goes on from the old one with its checks.

A failed check is turned into a message once, by the translator. Where failures are to
show at once, it is thrown instead of being added.
-/
namespace Vetting

/-- What all nodes of a validation share. -/
structure Setting where
  registry : Registry Rule
  translator : Translator
  throwEarly : Bool

abbrev Run := ExceptT Failure (StateM World)

/-- A value that is handed in: a new one, or the very object that a cell holds. -/
inductive Operand where
  | new (v : Value)
  | held (c : Nat)

namespace Run

/-- A computation without effect as a run. -/
def ofExcept {α : Type} (r : Except Failure α) : Run α :=
  match r with
  | .ok a => pure a
  | .error f => throw f

def ofFault {α : Type} (r : Except Fault α) : Run α := ofExcept (orFail r)

def log (level : Level) (message : String) : Run Unit :=
  modify fun w => { w with records := w.records.push ⟨level, w.mark, message⟩ }

def store (v : Value) : Run Nat :=
  modifyGet fun w => (w.cells.size, { w with cells := w.cells.push v })

def addNode (n : Node) : Run Nat :=
  modifyGet fun w => (w.nodes.size, { w with nodes := w.nodes.push n })

def addCheck (i : Nat) (c : Check) : Run Unit :=
  modify fun w =>
    { w with nodes := w.nodes.modify i fun n => { n with checks := n.checks ++ [c] } }

def nodeAt (i : Nat) : Run Node := do return (← get).node i

/-- The cell of an operand. -/
def place : Operand → Run Nat
  | .new v => store v
  | .held c => do if c < (← get).cells.size then return c else store .null

/-- Starts a chain on an operand. -/
def seedOn (o : Operand) (field : Option String) (sensitive : Bool) : Run Nat := do
  modify fun w => { w with mark := .fresh }
  let c ← place o
  addNode ⟨c, c, field, sensitive, none, []⟩

def seed (v : Value) (field : Option String) (sensitive : Bool) : Run Nat :=
  seedOn (.new v) field sensitive

def translate (σ : Setting) (key : Value) (context : Named Value) : Run (Option String) := do
  modify fun w => { w with calls := w.calls.push ⟨key, context⟩ }
  ofFault (σ.translator.translate key context)

def checkContext (w : World) (n : Node) (rule : String) : Named Value :=
  [("rule", .text rule), ("result", .bool false),
   ("value", if n.sensitive then .null else w.cell n.value),
   ("attribute", optionText n.field), ("sensitive", .bool n.sensitive)]

/-- What stands before the messages of a node: its field, unless that is empty. -/
def fieldLabel (n : Node) : String :=
  match n.field with
  | some s => if s.isEmpty then "" else s ++ ": "
  | none => ""

/-- A message that goes before the name of a rule, if it says anything. -/
def messageKey (message : Value) (rule : String) : Value :=
  if message.truth then message else .text rule

def check (σ : Setting) (i : Nat) (passed : Bool) (message : Value) (rule : String)
    (fields : Named Value) : Run Unit := do
  let key := messageKey message rule
  if passed then addCheck i (.passed key)
  else
    let w ← get
    let n := w.node i
    let translated ← translate σ key (Named.overlay (checkContext w n rule) fields)
    match translated, key with
    | some s, _ => fail n s
    | none, .text s => fail n s
    | none, _ => throw (.fault .wrongKind)
where
  fail (n : Node) (s : String) : Run Unit :=
    let m := fieldLabel n ++ s
    if σ.throwEarly then throw (.failedCheck m rule n.field) else addCheck i (.failed m)

/-- A node that goes on from another with a new value. -/
def derive (i : Nat) (v : Value) : Run Nat := do
  let c ← store v
  addNode { ← nodeAt i with value := c }

def conclude (σ : Setting) (i : Nat) : Outcome → Run Nat
  | .verdict passed message rule fields => do
      check σ i passed message rule fields
      return i
  | .replaced v => derive i v

/-- Names that no argument can be given by, because a call uses them itself. -/
def reservedNames : List String := ["self", "rule_name", "name", "node"]

def applyUnder (reserved : List String) (σ : Setting) (i : Nat) (name : String)
    (args : List Value) (byName : Named Value) : Run Nat := do
  if byName.any fun a => reserved.contains a.1 then throw (.fault .wrongKind)
  else
    match σ.registry.get? name with
    | none => throw (.unknownRule name)
    | some r => conclude σ i (← ofExcept (r.call ((← get).value i) args byName))

def apply (σ : Setting) (i : Nat) (name : String) (args : List Value) (byName : Named Value) :
    Run Nat :=
  applyUnder reservedNames σ i name args byName

/-- The rule of a name as a member of a node. -/
def invoke (σ : Setting) (i : Nat) (name : String) (args : List Value) (byName : Named Value) :
    Run Nat :=
  if name.startsWith "_" || !σ.registry.contains name then throw (.unknownMember name)
  else apply σ i name args byName

/-- The arguments of a step that its rule takes; others are dropped. -/
def stepArguments (σ : Setting) (name : String) (args : List Value) : Run (List Value) :=
  match σ.registry.maxArguments name with
  | none => pure args
  | some n => do
      if n < args.length then
        log .debug ("Ignoring " ++ toString (args.length - n) ++ " extra argument(s) for '" ++
          name ++ "'")
        return args.take n
      else return args

def applyStep (σ : Setting) (i : Nat) (s : Step) : Run Nat := do
  if s.isIdle then return i
  else
    let name := String.ofList s.name
    let args ← stepArguments σ name (s.args.map fun a => .text (String.ofList a))
    apply σ i name args []

/-- Starts an alternative to a node, from the value that the chain started from. -/
def fork (i : Nat) : Run Nat := do
  let n ← nodeAt i
  addNode { n with value := n.initial, parent := some i, checks := [] }

/-- Runs alternatives one after the other, each as an alternative to the one before. -/
def applyAlternatives (σ : Setting) : Nat → List Alternative → Run Nat
  | i, [] => pure i
  | i, a :: rest => do
      let j ← a.foldlM (applyStep σ) i
      match rest with
      | [] => return j
      | _ => applyAlternatives σ (← fork j) rest

def truthName (b : Bool) : String := if b then "True" else "False"

def fieldName (n : Node) : String :=
  match n.field with
  | some s => if s.isEmpty then "value" else s
  | none => "value"

/-- Applies an expression to a node. The result need not be valid. -/
def rules (σ : Setting) (i : Nat) (source : String) : Run Nat := do
  let e := Expression.parse source.toList
  let j ← applyAlternatives σ i e
  let w ← get
  log .debug ("Applied '" ++ source ++ "' to " ++ fieldName (w.node j) ++ ": " ++
    toString e.length ++ " alternative(s), valid=" ++ truthName (w.valid j))
  return j

/-- The field under which the errors of a chain without one are reported. -/
def generalField : String := "general"

/-- Fails with all errors of a chain unless it is valid. -/
def validate (σ : Setting) (i : Nat) : Run Nat := do
  let w ← get
  if w.valid i then return i
  else
    let errors := w.errors i
    let field := (w.node i).field.getD generalField
    let translated ← translate σ (.text invalidKey)
      [("attribute", .text field), ("errors", .list (errors.map .text))]
    let message := match translated with
      | some s => if s.isEmpty then invalidMessage else s
      | none => invalidMessage
    log .warning ("Validation failed for '" ++ field ++ "' with " ++ toString errors.length ++
      " error(s)")
    throw (.invalid message field errors)

/-- What a copy of a node can have of its own. -/
structure Changes where
  field : Option String := none
  sensitive : Option Bool := none
  keepChecks : Bool := true
  initial : Option Operand := none

/-- A copy of a node with another value. -/
def clone (i : Nat) (o : Operand) (c : Changes) : Run Nat := do
  let n ← nodeAt i
  let cell ← place o
  let initial ← match c.initial with
    | some first => place first
    | none => pure n.initial
  addNode
    { value := cell
      initial := initial
      field := c.field.or n.field
      sensitive := c.sensitive.getD n.sensitive
      parent := n.parent
      checks := if c.keepChecks then n.checks else [] }

/-- A node described in one line. A sensitive value is not shown. -/
def describe (i : Nat) : Run String := do
  let w ← get
  let n := w.node i
  let value ← if n.sensitive then pure "[FILTERED]" else ofFault (w.cell n.value).literal
  let field ← ofFault (optionText n.field).literal
  return "RuleChain(value=" ++ value ++ ", attribute=" ++ field ++ ", checks=" ++
    toString n.checks.length ++ ", valid=" ++ truthName (w.valid i) ++ ")"

end Run

end Vetting
