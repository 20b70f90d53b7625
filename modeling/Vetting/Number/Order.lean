import Vetting.Number.Decimal

/-!
# Order of numbers of different kinds

Integers, binary and decimal numbers are compared by value, without rounding any
of them: each finite number is a coefficient times a power of ten. A comparison
with a quiet NaN has no answer, and one with a signalling NaN is an error.
-/
namespace Vetting

inductive Number where
  | int (n : Int)
  | binary (x : Number.Binary64)
  | decimal (d : Number.Decimal)
  deriving DecidableEq, Repr

namespace Number

/-- A number with its place on the extended line, or one of the NaNs. -/
inductive Position where
  | at (negative : Bool) (coefficient : Nat) (exponent : Int)
  | end_ (negative : Bool)
  | nan
  | signal
  deriving DecidableEq, Repr

def position : Number → Position
  | .int n => .at (n < 0) n.natAbs 0
  | .binary .nan => .nan
  | .binary (.infinite negative) => .end_ negative
  | .binary (.finite negative m e) =>
      if 0 ≤ e then .at negative (m * Nat.pow 2 e.toNat) 0
      else .at negative (m * Nat.pow 5 (-e).toNat) e
  | .decimal (.finite negative c e) => .at negative c e
  | .decimal (.infinite negative) => .end_ negative
  | .decimal (.quietNaN ..) => .nan
  | .decimal (.signalNaN ..) => .signal

/-- Order of two positive sizes. Sizes whose leading digits stand at different places
are told apart by those places alone. -/
def compareSizes (a : Nat) (e : Int) (b : Nat) (f : Int) : Ordering :=
  let x : Int := e + digitCount a
  let y : Int := f + digitCount b
  if x < y then .lt
  else if y < x then .gt
  else compare (a * Nat.pow 10 (e - f).toNat) (b * Nat.pow 10 (f - e).toNat)

def Position.order? : Position → Position → Option Ordering
  | .at n a e, .at m b f =>
      if a = 0 ∧ b = 0 then some .eq
      else if a = 0 then some (if m then .gt else .lt)
      else if b = 0 then some (if n then .lt else .gt)
      else match n, m with
        | true, false => some .lt
        | false, true => some .gt
        | false, false => some (compareSizes a e b f)
        | true, true => some (compareSizes a e b f).swap
  | .at .., .end_ m => some (if m then .gt else .lt)
  | .end_ n, .at .. => some (if n then .lt else .gt)
  | .end_ n, .end_ m =>
      some (match n, m with
        | true, false => .lt
        | false, true => .gt
        | _, _ => .eq)
  | _, _ => none

def order? : Number → Number → Option Ordering
  | .int a, .int b => some (compare a b)
  | a, b => a.position.order? b.position

theorem compareSizes_eq {a b : Nat} {e f : Int} (h : compareSizes a e b f = .eq) :
    a * Nat.pow 10 (e - f).toNat = b * Nat.pow 10 (f - e).toNat := by
  unfold compareSizes at h
  dsimp only at h
  split at h
  · cases h
  · split at h
    · cases h
    · exact Nat.compare_eq_eq.mp h

/-- Two sizes with the same exponent that equal a third one are the same. -/
theorem compareSizes_cancel {a b c : Nat} {e f : Int} (ha : compareSizes a e c f = .eq)
    (hb : compareSizes b e c f = .eq) : a = b := by
  have h := (compareSizes_eq ha).trans (compareSizes_eq hb).symm
  exact Nat.eq_of_mul_eq_mul_right (Nat.pow_pos (by decide)) h

/-- What equals a place on the line lies at that place, unless both are zero. -/
theorem Position.eq_of_order? {n : Bool} {a : Nat} {e : Int} {q : Position}
    (h : (Position.at n a e).order? q = some .eq) :
    ∃ m c f, q = .at m c f ∧
      ((a = 0 ∧ c = 0) ∨ (a ≠ 0 ∧ c ≠ 0 ∧ n = m ∧ compareSizes a e c f = .eq)) := by
  cases q with
  | «at» m c f =>
      refine ⟨m,c,f,rfl,?_⟩
      unfold Position.order? at h
      dsimp only at h
      split at h
      · rename_i hz
        exact Or.inl hz
      · split at h
        · cases m <;> simp at h
        · split at h
          · cases n <;> simp at h
          · rename_i ha hc
            cases n <;> cases m <;> simp [ha,hc] at h ⊢
            · exact h
            · exact h
  | end_ m => cases m <;> simp [Position.order?] at h
  | nan => simp [Position.order?] at h
  | signal => simp [Position.order?] at h

/-- No number equals two integers. -/
theorem int_eq_of_order? {a b : Int} {c : Number}
    (ha : (Number.int a).order? c = some .eq) (hb : (Number.int b).order? c = some .eq) :
    a = b := by
  have hp : ∀ q : Position, (Number.int a).position.order? q = some .eq →
      (Number.int b).position.order? q = some .eq → a = b := by
    intro q hqa hqb
    obtain ⟨m,d,f,rfl,h⟩ := Position.eq_of_order? hqa
    obtain ⟨m',d',f',hq,h'⟩ := Position.eq_of_order? hqb
    cases hq
    rcases h with ⟨h0,hd⟩ | ⟨-,hd,hs,hc⟩
    · rcases h' with ⟨h0',-⟩ | ⟨-,hd',-⟩
      · omega
      · exact absurd hd hd'
    · rcases h' with ⟨-,hd'⟩ | ⟨-,-,hs',hc'⟩
      · exact absurd hd' hd
      · have hn := compareSizes_cancel hc hc'
        have hsign := hs.trans hs'.symm
        simp only [decide_eq_decide] at hsign
        omega
  cases c with
  | int c =>
      simp only [Number.order?,Option.some.injEq] at ha hb
      rw [Int.compare_eq_eq] at ha hb
      exact ha.trans hb.symm
  | binary x => exact hp _ ha hb
  | decimal d => exact hp _ ha hb

end Number

end Vetting
