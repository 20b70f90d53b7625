import Vetting.Value.Equality

/-!
# Values that differ from themselves

Whether a value is to be written back is asked by comparing it with the value that was read,
and where nothing has changed these are one and the same. A container is not compared with
itself at all, and anything else is equal to itself, with the NaNs as the only exception: a
quiet one is not equal to itself, and a signalling one cannot be compared.
-/
namespace Vetting
open Number

namespace Value

/-- A number that is not equal to itself. -/
def isNaN : Value → Bool
  | .float .nan => true
  | .decimal d => d.isNaN
  | _ => false

/-- A number that cannot be compared, not even with itself. -/
def isSignal : Value → Bool
  | .decimal d => d.isSignal
  | _ => false

theorem isNaN_of_isSignal {v : Value} (h : v.isSignal = true) : v.isNaN = true := by
  cases v with
  | decimal d => cases d <;> first | rfl | cases h
  | _ => cases h

end Value

namespace Number

theorem compareSizes_self (a : Nat) (e : Int) : compareSizes a e a e = .eq := by
  simp [compareSizes]

/-- A place on the line is at the same place as itself. -/
theorem Position.order?_at_self (negative : Bool) (a : Nat) (e : Int) :
    (Position.at negative a e).order? (.at negative a e) = some .eq := by
  by_cases ha : a = 0
  · simp [Position.order?,ha]
  · cases negative <;> simp [Position.order?,ha,compareSizes_self]

theorem order?_binary_self (x : Binary64) :
    (Number.binary x).order? (.binary x) = if x = .nan then none else some .eq := by
  cases x with
  | nan => rfl
  | infinite negative => cases negative <;> rfl
  | finite negative m e =>
      change (Number.binary (.finite negative m e)).position.order?
        (Number.binary (.finite negative m e)).position = _
      rw [Number.position]
      split <;> simp [Position.order?_at_self]

theorem order?_decimal_self (d : Decimal) :
    (Number.decimal d).order? (.decimal d) = if d.isNaN then none else some .eq := by
  cases d with
  | finite negative c e => exact Position.order?_at_self negative c e
  | infinite negative => cases negative <;> rfl
  | quietNaN negative p => rfl
  | signalNaN negative p => rfl

end Number

namespace Value

/-- A value differs from itself if it is a NaN, and cannot be compared with itself if that is
a signalling one. -/
theorem differs_self (v : Value) :
    v.differs true v = if v.isSignal then .error .noResult else .ok v.isNaN := by
  cases v with
  | null => simp [differs,equal,isSignal,isNaN,isNull,Except.map]
  | bool b =>
      simp [differs,equal,equalsNumber,number?,Number.equal,Number.order?,
        isSignal,isNaN,Except.map]
  | int n =>
      simp [differs,equal,equalsNumber,number?,Number.equal,Number.order?,
        isSignal,isNaN,Except.map]
  | float x =>
      simp only [differs,equal,equalsNumber,number?,Number.equal,order?_binary_self]
      cases x <;> rfl
  | decimal d =>
      cases d with
      | signalNaN negative p =>
          simp [differs,equal,equalsNumber,number?,Number.equal,isSignal,
            Decimal.isSignal,Except.map]
      | _ =>
          simp only [differs,equal,equalsNumber,number?,Number.equal,order?_decimal_self]
          rfl
  | date d => simp [differs,equal,isSignal,isNaN,Except.map]
  | moment t => simp [differs,equal,isSignal,isNaN,Except.map]
  | bytes bs => simp [differs,equal,isSignal,isNaN,Except.map]
  | text s => simp [differs,equal,isSignal,isNaN,Except.map]
  | list xs => simp [differs,isSignal,isNaN]
  | tuple xs => simp [differs,isSignal,isNaN]
  | set xs => simp [differs,isSignal,isNaN]
  | dict es => simp [differs,isSignal,isNaN]

end Value
end Vetting
