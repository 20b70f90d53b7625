import Vetting.Named

/-!
# Registries

A registry keeps entries under names. An entry is registered under a name and any number
of aliases, which are then names like any other. How many arguments an entry takes is kept
in a table of its own, which no operation lets get out of step with the entries. Registries
are values: a copy is the registry itself, and what is done to one never shows in another.
-/
namespace Vetting

/-- What takes arguments by position: at most so many, or any number of them. -/
class Applicable (α : Type) where
  arity : α → Option Nat

structure Registry (α : Type) [Applicable α] where
  entries : Named α
  arities : Named (Option Nat)
  inStep : arities = entries.map fun e => (e.1, Applicable.arity e.2)

namespace Registry
variable {α : Type} [Applicable α]

def empty : Registry α := ⟨[], [], rfl⟩

def get? (r : Registry α) (name : String) : Option α := Named.get? name r.entries

def contains (r : Registry α) (name : String) : Bool := (r.get? name).isSome

def names (r : Registry α) : List String := Named.names r.entries

/-- Most arguments that the entry of a name takes by position: none when they are not
bounded, and none when there is no such entry. -/
def maxArguments (r : Registry α) (name : String) : Option Nat :=
  (Named.get? name r.arities).join

def insert (r : Registry α) (name : String) (a : α) : Registry α where
  entries := Named.put name a r.entries
  arities := Named.put name (Applicable.arity a) r.arities
  inStep := by rw [r.inStep,Named.put_map]

def register (r : Registry α) (name : String) (a : α) (aliases : List String) : Registry α :=
  (name :: aliases).foldl (fun r n => r.insert n a) r

def unregister (r : Registry α) (name : String) : Registry α where
  entries := Named.erase name r.entries
  arities := Named.erase name r.arities
  inStep := by rw [r.inStep,Named.erase_map]

theorem maxArguments_eq (r : Registry α) (name : String) :
    r.maxArguments name = (r.get? name).bind Applicable.arity := by
  rw [maxArguments,r.inStep,Named.get?_map,get?]
  cases Named.get? name r.entries <;> rfl

theorem get?_insert_self (r : Registry α) (name : String) (a : α) :
    (r.insert name a).get? name = some a :=
  Named.get?_put_self name a r.entries

theorem get?_insert_of_ne (r : Registry α) {name other : String} (h : other ≠ name) (a : α) :
    (r.insert name a).get? other = r.get? other :=
  Named.get?_put_of_ne h a r.entries

theorem get?_foldl_insert (r : Registry α) (a : α) (ns : List String) (name : String) :
    (ns.foldl (fun r n => r.insert n a) r).get? name =
      if name ∈ ns then some a else r.get? name := by
  induction ns generalizing r with
  | nil => rfl
  | cons n rest ih =>
      rw [List.foldl_cons,ih]
      by_cases h : name = n
      · rw [h,get?_insert_self]
        simp
      · rw [get?_insert_of_ne r h]
        simp [h]

/-- What a registration puts under its names, and leaves under all others. -/
theorem get?_register (r : Registry α) (name : String) (a : α) (aliases : List String)
    (other : String) : (r.register name a aliases).get? other =
      if other ∈ name :: aliases then some a else r.get? other :=
  get?_foldl_insert r a (name :: aliases) other

theorem get?_unregister_self (r : Registry α) (name : String) :
    (r.unregister name).get? name = none :=
  Named.get?_erase_self name r.entries

theorem get?_unregister_of_ne (r : Registry α) {name other : String} (h : other ≠ name) :
    (r.unregister name).get? other = r.get? other :=
  Named.get?_erase_of_ne h r.entries

end Registry

end Vetting
