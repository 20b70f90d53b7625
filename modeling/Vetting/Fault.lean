/-!
# Faults

What a computation on values runs into when its operands are not fit for it. A
fault carries no message: only its kind is part of what the library promises.
Refusals that the library itself words are in `Vetting.Failure`.
-/
namespace Vetting

inductive Fault where
  /-- An operand of a kind the operation does not take, or a call with wrong arguments. -/
  | wrongKind
  /-- An operand of the right kind without a usable value. -/
  | badValue
  /-- A number too large for the form it is needed in. -/
  | tooLarge
  /-- A position outside a sequence. -/
  | outOfRange
  /-- A key that a dictionary does not have. -/
  | noKey
  /-- A member that the operand does not have. -/
  | noMember
  /-- A decimal operation without a result. -/
  | noResult
  /-- A decimal result beyond the largest exponent. -/
  | exponentRange
  /-- A pattern or a replacement that cannot be read. -/
  | badPattern
  deriving DecidableEq, Repr

/-- Why a document cannot be read: it is malformed, or a scalar in it has no value. -/
inductive Trouble where
  | malformed
  | fault (f : Fault)
  deriving DecidableEq, Repr

section
variable {ε α β : Type} {result : Except ε α} {b : β}

/-- What comes to a result in two steps comes to one in the first of them. -/
theorem exists_of_bind {g : α → Except ε β} (h : (result >>= g) = .ok b) :
    ∃ x, result = .ok x ∧ g x = .ok b := by
  cases result with
  | error e => cases h
  | ok x => exact ⟨x,rfl,h⟩

theorem exists_of_map {g : α → β} (h : result.map g = .ok b) : ∃ x, result = .ok x ∧ g x = b := by
  cases result with
  | error e => cases h
  | ok x => exact ⟨x,rfl,Except.ok.inj h⟩

end

end Vetting
