import Vetting.Chain.Run

/-!
# Members of nodes

What a name after a dot stands for. The members that a node has of its own come first. Every
other name stands for the rule that is registered under it, called on the node; only names
that begin with an underscore are kept out, as these are for what is private.
-/
namespace Vetting

inductive Member where
  /-- Something that the node has of its own, whether or not there is a rule of that name. -/
  | own
  /-- A rule, which can be called with arguments by position and by name. -/
  | rule (call : List Value → Named Value → Run Nat)

namespace Member

def offered : List String :=
  ["clone", "context", "value", "attribute", "sensitive", "parent", "checks",
   "expression_errors", "expression_has_errors", "valid", "errors", "has_errors", "get",
   "get_original", "validate", "or_", "check", "apply", "rules", "assoc_rules"]

def hidden : List String :=
  ["_context", "_value", "_original", "_attribute", "_sensitive", "_parent", "_checks"]

/-- What every object has. -/
def common : List String :=
  ["__class__", "__delattr__", "__dict__", "__dir__", "__doc__", "__eq__", "__format__",
   "__ge__", "__getattr__", "__getattribute__", "__getstate__", "__gt__", "__hash__",
   "__init__", "__init_subclass__", "__le__", "__lt__", "__module__", "__ne__", "__new__",
   "__reduce__", "__reduce_ex__", "__repr__", "__setattr__", "__sizeof__", "__str__",
   "__subclasshook__", "__weakref__"]

def isOwn (name : String) : Bool :=
  offered.contains name || hidden.contains name || common.contains name

end Member

namespace Run

/-- The member of a node that goes by a name. -/
def member (σ : Setting) (i : Nat) (name : String) : Except Failure Member :=
  if Member.isOwn name then .ok .own
  else if name.startsWith "_" || !σ.registry.contains name then
    .error (.unknownMember name)
  else .ok (.rule (apply σ i name))

/-- Calling what a name stands for is calling a rule by way of the node. -/
theorem invoke_of_member {σ : Setting} {i : Nat} {name : String}
    {call : List Value → Named Value → Run Nat} (h : member σ i name = .ok (.rule call)) :
    invoke σ i name = call := by
  unfold member at h
  split at h
  · cases h
  · split at h
    · cases h
    · rename_i hreg
      cases h
      funext args byName
      rw [invoke,if_neg hreg]

end Run

end Vetting
