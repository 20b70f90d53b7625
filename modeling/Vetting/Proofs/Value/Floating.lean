import Vetting.Proofs.Value.Leading
import Vetting.Proofs.Value.Integral
import Vetting.Proofs.Value.Written

/-!
# Values as binary numbers

Every value comes to a binary number, with four exceptions: integers beyond the largest one,
the signalling NaN, values without a text, and texts in which a separator stands before the
number. Values that mean an infinity or no number come to just that.
-/
namespace Vetting
open Number Text

namespace Value

/-- Numbers are read as such; of everything else the text is read. -/
def isReal : Value → Bool
  | .bool _ => true
  | .int _ => true
  | .float _ => true
  | .decimal _ => true
  | _ => false

/-- The values that come to no binary number. -/
inductive Unfloatable : Value → Prop
  | large {n : Int} (h : Binary64.overflow ≤ |(n : ℚ)|) : Unfloatable (.int n)
  | signal {negative : Bool} {payload : Nat} :
      Unfloatable (.decimal (.signalNaN negative payload))
  | unwritable {v : Value} (hv : v.isReal = false) (h : v.Unwritable) : Unfloatable v
  | separated {v : Value} {s : String} (hv : v.isReal = false) (hs : v.toText = .ok s)
      (h : Separated s.toList) : Unfloatable v

/-- Values that mean an infinity or no number, with what they come to. -/
inductive Unbounded : Value → Binary64 → Prop
  | float {x : Binary64} (h : x.isFinite = false) : Unbounded (.float x) x
  | infinite {negative : Bool} : Unbounded (.decimal (.infinite negative)) (.infinite negative)
  | nan {negative : Bool} {payload : Nat} : Unbounded (.decimal (.quietNaN negative payload)) .nan
  | decimal {negative : Bool} {c : Nat} {e : Int}
      (h : Binary64.overflow ≤ |withSign negative (c * 10 ^ e)|) :
      Unbounded (.decimal (.finite negative c e))
        (.infinite (decide (withSign negative (c * 10 ^ e) < 0)))
  | text {s : String} {p : List Char} {n : Numeral} (hp : LongestNumber s.toList p)
      (hn : Numeral.ofText? p = some n) (h : Binary64.overflow ≤ |n.value|) :
      Unbounded (.text s) (.infinite (decide (n.value < 0)))

section
variable {v : Value} {x : Binary64} {s : String}

theorem inFormat_zero (negative : Bool) : (Binary64.zero negative).InFormat :=
  (Binary64.zero_nearest negative).inFormat

/-- What a text comes to is a number of the format, or it is the separator's fault. -/
theorem leadingFloat_cases (s : List Char) :
    (¬ Separated s ∧ ∃ x, leadingFloat s = .ok x ∧ x.InFormat) ∨
      Separated s ∧ leadingFloat s = .error .badValue := by
  by_cases hp : ∃ p, LongestNumber s p
  · obtain ⟨p,hp⟩ := hp
    obtain ⟨n,-,hread,hnone,hsome⟩ := hp.leadingFloat_eq
    by_cases h : HasSeparator p
    · right
      rw [hread,hnone h]
      exact ⟨⟨p,hp,h⟩,rfl⟩
    · left
      rw [hread,hsome h]
      refine ⟨?_,_,rfl,n.toBinary64_nearest.inFormat⟩
      rintro ⟨q,hq,hseparator⟩
      rw [hp.unique hq] at h
      exact h hseparator
  · left
    have hscan := not_not.mp (mt exists_longestNumber_iff.mpr hp)
    refine ⟨fun ⟨p,h,_⟩ => hp ⟨p,h⟩,Binary64.zero false,?_,inFormat_zero false⟩
    rw [leadingFloat,hscan]

theorem toFloat_of_not_isReal (hv : v.isReal = false) :
    v.toFloat = v.toText >>= fun s => leadingFloat s.toList := by
  cases v with
  | bool => cases hv
  | int => cases hv
  | float => cases hv
  | decimal => cases hv
  | _ => rfl

theorem not_unfloatable (hreal : v.isReal = true) (hint : ∀ n, v ≠ .int n)
    (hsignal : ∀ negative payload, v ≠ .decimal (.signalNaN negative payload)) :
    ¬ v.Unfloatable := by
  intro h
  cases h with
  | large => exact hint _ rfl
  | signal => exact hsignal _ _ rfl
  | unwritable h => cases hreal.symm.trans h
  | separated h => cases hreal.symm.trans h

theorem toFloat_cases_of_isReal (hv : v.Proper) (hreal : v.isReal = true) :
    (¬ v.Unfloatable ∧ ∃ x, v.toFloat = .ok x ∧ x.InFormat) ∨
      v.Unfloatable ∧ ∃ f, v.toFloat = .error f := by
  cases v with
  | bool b =>
      exact Or.inl ⟨not_unfloatable rfl nofun nofun,_,rfl,(Binary64.ofInt_nearest _).inFormat⟩
  | int n =>
      rcases intFloat_cases n with ⟨hsize,x,hx,hnearest⟩ | ⟨hsize,hx⟩
      · refine Or.inl ⟨?_,x,hx,hnearest.inFormat⟩
        intro h
        cases h with
        | large h => exact absurd hsize (not_lt.mpr h)
        | unwritable h => cases h
        | separated h => cases h
      · exact Or.inr ⟨.large hsize,_,hx⟩
  | float x => exact Or.inl ⟨not_unfloatable rfl nofun nofun,x,rfl,hv x rfl⟩
  | decimal d =>
      cases d with
      | signalNaN => exact Or.inr ⟨.signal,_,rfl⟩
      | finite negative c e =>
          have hnearest := Binary64.ofScaled_nearest negative c e
          exact Or.inl ⟨not_unfloatable rfl nofun nofun,_,rfl,hnearest.inFormat⟩
      | infinite => exact Or.inl ⟨not_unfloatable rfl nofun nofun,_,rfl,trivial⟩
      | quietNaN => exact Or.inl ⟨not_unfloatable rfl nofun nofun,_,rfl,trivial⟩
  | _ => cases hreal

theorem toFloat_cases_of_not_isReal (hv : v.Proper) (hreal : v.isReal = false) :
    (¬ v.Unfloatable ∧ ∃ x, v.toFloat = .ok x ∧ x.InFormat) ∨
      v.Unfloatable ∧ ∃ f, v.toFloat = .error f := by
  rw [toFloat_of_not_isReal hreal]
  have hwrites := toText_writes hv
  cases htext : v.toText with
  | error f =>
      have hbad := hwrites.exists_iff.1.mp ⟨f,htext⟩
      exact Or.inr ⟨.unwritable hreal hbad,f,rfl⟩
  | ok s =>
      have hgood := hwrites.exists_iff.2.mp ⟨s,htext⟩
      rcases leadingFloat_cases s.toList with ⟨h,x,hx,hformat⟩ | ⟨h,hx⟩
      · refine Or.inl ⟨?_,x,hx,hformat⟩
        intro hun
        cases hun with
        | large => cases hreal
        | signal => cases hreal
        | unwritable _ hbad => exact hgood hbad
        | separated _ hs hsep =>
            cases htext.symm.trans hs
            exact h hsep
      · exact Or.inr ⟨.separated hreal htext h,_,hx⟩

/-- A value comes to a number of the format, or to nothing. -/
theorem toFloat_cases (hv : v.Proper) :
    (¬ v.Unfloatable ∧ ∃ x, v.toFloat = .ok x ∧ x.InFormat) ∨
      v.Unfloatable ∧ ∃ f, v.toFloat = .error f := by
  cases hreal : v.isReal with
  | true => exact toFloat_cases_of_isReal hv hreal
  | false => exact toFloat_cases_of_not_isReal hv hreal

theorem Unbounded.isFinite_eq (h : v.Unbounded x) : x.isFinite = false := by
  cases h with
  | float h => exact h
  | _ => rfl

/-- What is no finite number stays what it is. -/
theorem toFloat_of_unbounded (h : v.Unbounded x) (hv : ¬ v.Unfloatable) :
    v.toFloat = .ok x := by
  cases h with
  | float => rfl
  | infinite => rfl
  | nan => rfl
  | @decimal negative c e h =>
      have hread : (Value.decimal (.finite negative c e)).toFloat =
          .ok (Binary64.ofScaled negative c e) := rfl
      rw [hread,(Binary64.ofScaled_nearest negative c e).eq_infinite h]
  | @text s p n hp hn h =>
      obtain ⟨m,hm,hread,hnone,hsome⟩ := hp.leadingFloat_eq
      rw [hn] at hm
      cases hm
      have hseparator : ¬ HasSeparator p := fun hs => hv (.separated rfl rfl ⟨p,hp,hs⟩)
      have htext : (Value.text s).toFloat = leadingFloat s.toList := rfl
      rw [htext,hread,hsome hseparator,n.toBinary64_nearest.eq_infinite h]
      rfl

end

end Value

end Vetting
