import Vetting.Proofs.Number.Halves
import Vetting.Proofs.Rules.Rounding

/-!
# Digits enough

The precision that a number is rounded with depends on the number and on the places. It is
enough for every decimal of no more than 17 digits that lies below the largest exponent, and all
places up to 999999 in either direction, so that rounding is never refused, and exact: the result
is the closest multiple of the unit, and of two that are as close the one that the mode is for.
Decimals of binary numbers are of this kind.
-/
namespace Vetting.Rules
open Number

section
variable {negative : Bool} {c : Nat} {q places : Int} {x : Binary64}

/-- All of these places have a unit, whose exponent decimals can be given. -/
theorem unitExponent_eq (hplaces : places.natAbs ≤ 999999) :
    unitExponent places = .ok (-places) ∧ Decimal.leastExponent 28 ≤ -places ∧
      -places ≤ Decimal.largestExponent := by
  rw [unitExponent,placesLimit,Decimal.leastExponent,Decimal.largestExponent]
  rw [if_neg (by omega),if_neg (by omega),max_eq_left (by omega)]
  exact ⟨rfl,by omega,by omega⟩

/-- Quantizing with the precision for some places gives the exact result, which the rule makes a
binary number of. -/
theorem asRound_exact (tie : Tie) (hdigits : digitCount c ≤ 17)
    (hrange : 0 < c → (Decimal.finite negative c q).adjusted < Decimal.largestExponent)
    (hplaces : places.natAbs ≤ 999999) :
    ∃ r : Nat,
      (Decimal.finite negative c q).quantize tie
          (roundingPrecision (.finite negative c q) places) (-places) =
        some (.finite negative r (-places)) ∧
      Rounded tie (10 ^ (-places)) (withSign negative (c * 10 ^ q))
        (withSign negative (r * 10 ^ (-places))) ∧
      ∀ (v precision mode : Value) (name : String) (b : Bound), b.given = [precision,mode] →
        precision.toInt = .ok (some places) → mode.display = .ok name →
        tieOf? name = some tie → v.toDecimal = .ok (.finite negative c q) →
        asRound.run v b =
          .ok (.replaced (.float (Binary64.ofScaled negative r (-places)))) := by
  obtain ⟨hunit,hleast,hlargest⟩ := unitExponent_eq hplaces
  have hquantize := quantize_roundingPrecision tie hdigits hrange le_rfl hleast hlargest
  refine ⟨_,hquantize,Decimal.rounded_shifted tie negative c q (-places),?_⟩
  intro v precision mode name b hb hprecision hmode htie hv
  exact Rounder.asRound_run hb hprecision hmode htie hv
    (roundDecimal_eq hunit hquantize)

/-- Half way between two integers, away from zero, and with a digit more than before. -/
theorem asRound_exact_carry :
    (Decimal.finite true 95 (-1)).quantize .up
        (roundingPrecision (.finite true 95 (-1)) 0) (-0) = some (.finite true 10 (-0)) ∧
      Rounded .up (10 ^ (-(0 : Int))) (withSign true ((95 : Nat) * 10 ^ (-1 : Int)))
        (withSign true ((10 : Nat) * 10 ^ (-(0 : Int)))) ∧
      asRound.run (.text "-9.5") ⟨[.int 0,.text "half_up"],[],[]⟩ =
        .ok (.replaced (.float (Binary64.ofScaled true 10 (-0)))) := by
  obtain ⟨r,hquantize,hrounded,hrun⟩ :=
    @asRound_exact true 95 (-1) 0 .up (by decide) (by decide) (by decide)
  have hsame : (Decimal.finite true 95 (-1)).quantize .up
      (roundingPrecision (.finite true 95 (-1)) 0) (-0) = some (.finite true 10 (-0)) := by decide
  have hdecimal : (Value.text "-9.5").toDecimal = .ok (.finite true 95 (-1)) := by decide +kernel
  rw [hsame] at hquantize
  cases hquantize
  exact ⟨hsame,hrounded,hrun _ _ _ "half_up" _ rfl rfl rfl (by decide +kernel) hdecimal⟩

end

end Vetting.Rules
