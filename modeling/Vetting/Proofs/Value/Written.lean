import Vetting.Proofs.Number.Closest
import Vetting.Proofs.Value.Likeness
import Vetting.Reading

/-!
# Values without a text

The only thing that cannot be written is an integer of too many digits, and with it every
collection that holds one. Floats are no exception, though those without a fraction are written
as integers: the largest ones of the format have far fewer digits.
-/
namespace Vetting
open Number

namespace Value

/-- The values that a collection is made of. -/
def parts : Value → List Value
  | .list xs => xs
  | .tuple xs => xs
  | .set xs => xs
  | .dict es => es.map Prod.fst ++ es.map Prod.snd
  | _ => []

/-- An integer of too many digits, or a collection in which there is one. -/
inductive Unwritable : Value → Prop
  | int {n : Int} (h : intLimit ≤ n.natAbs) : Unwritable (.int n)
  | part {v x : Value} (hx : x ∈ v.parts) (h : Unwritable x) : Unwritable v

/-- A result that is a text, or the fault of an integer that has none. -/
inductive Writes {α : Type} (bad : Prop) : Except Fault α → Prop
  | ok {a : α} (h : ¬ bad) : Writes bad (.ok a)
  | error (h : bad) : Writes bad (.error .badValue)

section
variable {α β : Type} {bad bad' : Prop} {v : Value} {xs : List Value} {n : Int}

theorem Writes.congr {r : Except Fault α} (h : Writes bad r) (hiff : bad ↔ bad') :
    Writes bad' r := by
  cases h with
  | ok h => exact .ok (mt hiff.mpr h)
  | error h => exact .error (hiff.mp h)

theorem Writes.bind {r : Except Fault α} {f : α → Except Fault β} (h : Writes bad r)
    (hf : ∀ a, r = .ok a → Writes bad' (f a)) : Writes (bad ∨ bad') (r >>= f) := by
  cases h with
  | ok hgood => exact (hf _ rfl).congr (or_iff_right hgood).symm
  | error hbad => exact .error (Or.inl hbad)

/-- What is made of a text is a text. -/
theorem Writes.bind_ok {r : Except Fault α} {f : α → Except Fault β} (h : Writes bad r)
    (hf : ∀ a, ∃ b, f a = .ok b) : Writes bad (r >>= f) := by
  cases h with
  | ok hgood =>
      rename_i a
      obtain ⟨b,hb⟩ := hf a
      have hr : ((Except.ok a : Except Fault α) >>= f) = .ok b := hb
      rw [hr]
      exact .ok hgood
  | error hbad => exact .error hbad

theorem Writes.exists_iff {r : Except Fault α} (h : Writes bad r) :
    ((∃ f, r = .error f) ↔ bad) ∧ ((∃ a, r = .ok a) ↔ ¬ bad) := by
  cases h with
  | ok h => exact ⟨by simp [h],by simp [h]⟩
  | error h => exact ⟨by simp [h],by simp [h]⟩

theorem writes_intText (n : Int) : Writes (intLimit ≤ n.natAbs) (intText n) := by
  rw [intText]
  split
  case isTrue h => exact .ok (by omega)
  case isFalse h => exact .error (by omega)

theorem unwritable_iff : v.Unwritable ↔
    (∃ n, v = .int n ∧ intLimit ≤ n.natAbs) ∨ ∃ x ∈ v.parts, x.Unwritable := by
  constructor
  · intro h
    cases h with
    | int h => exact Or.inl ⟨_,rfl,h⟩
    | part hx h => exact Or.inr ⟨_,hx,h⟩
  · rintro (⟨n,rfl,h⟩ | ⟨x,hx,h⟩)
    · exact .int h
    · exact .part hx h

theorem not_unwritable (hparts : v.parts = []) (hint : ∀ n, v ≠ .int n) : ¬ v.Unwritable := by
  rw [unwritable_iff,hparts]
  rintro (⟨n,rfl,-⟩ | ⟨x,⟨⟩,-⟩)
  exact hint n rfl

/-! ## Literals and texts -/

theorem literals_writes (h : ∀ x ∈ xs, Writes x.Unwritable x.literal) :
    Writes (∃ x ∈ xs, x.Unwritable) (literals xs) := by
  induction xs with
  | nil => exact .ok (by simp)
  | cons x xs ih =>
      rw [literals]
      refine Writes.congr ((h x List.mem_cons_self).bind fun a _ =>
        (ih fun y hy => h y (List.mem_cons_of_mem x hy)).bind_ok fun _ => ⟨_,rfl⟩) ?_
      simp

theorem entryLiterals_writes {es : List (Value × Value)}
    (h : ∀ e ∈ es, Writes e.1.Unwritable e.1.literal ∧ Writes e.2.Unwritable e.2.literal) :
    Writes (∃ e ∈ es, e.1.Unwritable ∨ e.2.Unwritable) (entryLiterals es) := by
  induction es with
  | nil => exact .ok (by simp)
  | cons e es ih =>
      obtain ⟨k,x⟩ := e
      obtain ⟨hk,hx⟩ := h _ List.mem_cons_self
      rw [entryLiterals]
      refine Writes.congr (hk.bind fun a _ => hx.bind fun b _ =>
        (ih fun y hy => h y (List.mem_cons_of_mem _ hy)).bind_ok fun _ => ⟨_,rfl⟩) ?_
      simp [or_assoc]

/-- A value has a literal unless an integer stands in the way. -/
theorem literal_writes (v : Value) : Writes v.Unwritable v.literal := by
  induction v using parts_induction with
  | scalar v hs =>
      cases v with
      | int n =>
          rw [literal,unwritable_iff]
          exact (writes_intText n).congr (by simp [parts])
      | list => cases hs
      | tuple => cases hs
      | set => cases hs
      | dict => cases hs
      | _ =>
          rw [literal]
          exact .ok (not_unwritable rfl nofun)
  | list xs ih =>
      rw [literal,unwritable_iff]
      exact ((literals_writes ih).bind_ok fun _ => ⟨_,rfl⟩).congr (by simp [parts])
  | tuple xs ih =>
      rw [literal,unwritable_iff]
      refine ((literals_writes ih).bind_ok fun ts => ?_).congr (by simp [parts])
      split <;> exact ⟨_,rfl⟩
  | set xs ih =>
      rw [literal,unwritable_iff]
      refine ((literals_writes ih).bind_ok fun ts => ?_).congr (by simp [parts])
      split <;> exact ⟨_,rfl⟩
  | dict es ih =>
      rw [literal,unwritable_iff]
      refine ((entryLiterals_writes ih).bind_ok fun _ => ⟨_,rfl⟩).congr ?_
      simp only [parts,List.mem_append,List.mem_map,or_and_right,and_or_left,exists_or,↓existsAndEq]
      simp

theorem display_writes (v : Value) : Writes v.Unwritable v.display := by
  cases v with
  | text => exact .ok (not_unwritable rfl nofun)
  | decimal => exact .ok (not_unwritable rfl nofun)
  | date => exact .ok (not_unwritable rfl nofun)
  | moment => exact .ok (not_unwritable rfl nofun)
  | _ => exact literal_writes _

/-- A float is one of the format; other values are not restricted. -/
def Proper (v : Value) : Prop := ∀ x, v = .float x → x.InFormat

theorem ten_pow_le_intLimit : Nat.pow 10 310 ≤ intLimit := by decide +kernel

/-- The largest numbers of the format have 309 digits. -/
theorem natAbs_floor_lt {x : Binary64} (hx : x.InFormat) (hi : x.isInteger = true) :
    x.floor.natAbs < intLimit := by
  have hlt := Binary64.abs_value_lt hx (Binary64.value?_of_isInteger hi)
  have hpow : (2 : ℚ) ^ (1024 : Int) ≤ (Nat.pow 10 310 : Nat) := by
    exact_mod_cast (by decide +kernel : 2 ^ 1024 ≤ Nat.pow 10 310)
  have hq : (x.floor.natAbs : ℚ) < (Nat.pow 10 310 : Nat) := by
    rw [Nat.cast_natAbs,Int.cast_abs]
    exact hlt.trans_le hpow
  exact (Nat.cast_lt.mp hq).trans_le ten_pow_le_intLimit

/-- The text of a value does not exist for the same reason alone. -/
theorem toText_writes (hv : v.Proper) : Writes v.Unwritable v.toText := by
  cases v with
  | null => exact .ok (not_unwritable rfl nofun)
  | bool => exact .ok (not_unwritable rfl nofun)
  | float x =>
      rw [toText]
      split
      · rename_i hi
        refine (writes_intText x.floor).congr (iff_of_false ?_ (not_unwritable rfl nofun))
        exact Nat.not_le.mpr (natAbs_floor_lt (hv x rfl) hi)
      · exact .ok (not_unwritable rfl nofun)
  | _ => exact display_writes _

end

end Value

end Vetting
