import Vetting.Failure
import Vetting.Registry

/-!
# Rules

A rule looks at a value and at arguments and comes to an outcome of one of two shapes: a
verdict on the value, or a new value in its place. Rules know nothing of chains; what a
verdict or a new value means for a chain is the chain's business. So a rule has no way of
working on nodes or on the registry by itself, and what holds of every registry holds of
every registry of such rules.

Arguments come by position or by name and are bound to the parameters of a rule before
it runs. A call that cannot be bound is a fault.
-/
namespace Vetting

structure Parameter where
  name : String
  /-- The value taken when there is no argument; without one, an argument is needed. -/
  default : Option Value := none
  positionalOnly : Bool := false

structure Signature where
  parameters : List Parameter := []
  /-- Whether further arguments are taken by position. -/
  variadic : Bool := false
  /-- Parameters bound by name only. -/
  keywords : List Parameter := []

/-- Arguments in the order of the parameters they are bound to. -/
structure Bound where
  given : List Value
  rest : List Value
  named : List Value

/-- The value of a parameter, out of the argument in its position if there is one. -/
def Parameter.bind (p : Parameter) (byName : Named Value) (positional : Option Value) :
    Except Fault Value :=
  match positional, Named.get? p.name byName with
  | some v, none => .ok v
  | some _, some _ => .error .wrongKind
  | none, some v => .ok v
  | none, none =>
      match p.default with
      | some v => .ok v
      | none => .error .wrongKind

namespace Signature

def bindAll (byName : Named Value) :
    List Parameter → List Value → Except Fault (List Value)
  | [], _ => .ok []
  | p :: ps, args => do
      let v ← p.bind byName args.head?
      .ok (v :: (← bindAll byName ps args.tail))

def openNames (s : Signature) : List String :=
  (s.parameters.filter fun p => !p.positionalOnly).map (·.name) ++ s.keywords.map (·.name)

def arity (s : Signature) : Option Nat := if s.variadic then none else some s.parameters.length

def bind (s : Signature) (args : List Value) (byName : Named Value) :
    Except Fault Bound :=
  if !s.variadic && s.parameters.length < args.length then .error .wrongKind
  else if byName.any fun a => !s.openNames.contains a.1 then .error .wrongKind
  else do
    let given ← bindAll byName s.parameters args
    let named ← bindAll byName s.keywords []
    .ok ⟨given, args.drop s.parameters.length, named⟩

end Signature

/-- What a rule comes to. There is no third shape: neither other nodes nor the registry are
within its reach. -/
inductive Outcome where
  /-- Whether the value passes, a message that goes before the one of the rule, the name
  to look the message up by, and named values for it. -/
  | verdict (passed : Bool) (message : Value) (rule : String) (fields : Named Value)
  /-- A new value. -/
  | replaced (v : Value)

structure Rule where
  /-- Tells rules apart that are registered under several names. -/
  label : String
  signature : Signature
  run : Value → Bound → Except Failure Outcome

namespace Rule

def arity (r : Rule) : Option Nat := r.signature.arity

instance : Applicable Rule := ⟨arity⟩

def call (r : Rule) (v : Value) (args : List Value) (byName : Named Value) :
    Except Failure Outcome := do
  let b ← orFail (r.signature.bind args byName)
  r.run v b

end Rule

/-- What every rule with parameters does with arguments of another shape than its own. -/
def misbound {α : Type} : Except Failure α := .error (.fault .wrongKind)

/-- The parameter for a message in place of the rule's own. -/
def messageParameter : Parameter := ⟨"message", some .null, false⟩

def registerAll (r : Registry Rule) (rules : List (String × List String × Rule)) :
    Registry Rule :=
  rules.foldl (fun r e => r.register e.1 e.2.2 e.2.1) r

end Vetting
