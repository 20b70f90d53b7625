import Mathlib.Data.Nat.Cast.Order.Field
import Vetting.Proofs.Number.Closest

/-!
# Rounding to places

Rounding a number to some places gives the decimal with its shortest digits another exponent.
This is refused for want of digits or for an exponent that there is not only. The precision is
chosen so that there are digits enough, and the decimal of a binary number lies so far below
the largest exponent that rounding up does not reach it.
-/
namespace Vetting.Number

section
variable {n k : Nat}

/-! ## Digits -/

theorem digitCount_le_iff (hk : 0 < k) : digitCount n ≤ k ↔ n < 10 ^ k := by
  rw [digitCount,Nat.repr_eq_ofList_toDigits,String.length_ofList]
  exact Nat.length_toDigits_le_iff (by decide) hk

theorem digitCount_pos (n : Nat) : 0 < digitCount n := by
  rw [digitCount,Nat.repr_eq_ofList_toDigits,String.length_ofList]
  exact Nat.length_toDigits_pos

theorem pow_digitCount_le (hn : 0 < n) : 10 ^ (digitCount n - 1) ≤ n := by
  rcases Nat.eq_zero_or_pos (digitCount n - 1) with h | h
  · rw [h]
    exact hn
  · have hpos := digitCount_pos n
    have hnot : ¬ digitCount n ≤ digitCount n - 1 := by omega
    rw [digitCount_le_iff h] at hnot
    exact not_lt.mp hnot

theorem digitCount_mul_pow (hn : 0 < n) (k : Nat) : digitCount (n * 10 ^ k) = digitCount n + k := by
  have hpos := digitCount_pos n
  have hlt := (digitCount_le_iff (n := n) hpos).mp le_rfl
  apply le_antisymm
  · rw [digitCount_le_iff (by omega),Nat.pow_add]
    exact Nat.mul_lt_mul_of_pos_right hlt (Nat.pow_pos (by decide))
  · by_contra hless
    have hup : n * 10 ^ k < 10 ^ (digitCount n - 1 + k) := by
      have hsmall : digitCount (n * 10 ^ k) ≤ digitCount n - 1 + k := by omega
      rcases Nat.eq_zero_or_pos (digitCount n - 1 + k) with hz | hz
      · have := digitCount_pos (n * 10 ^ k)
        omega
      · exact (digitCount_le_iff hz).mp hsmall
    rw [Nat.pow_add] at hup
    exact absurd (pow_digitCount_le hn)
      (not_le.mpr (Nat.lt_of_mul_lt_mul_right hup))

theorem bitLength_le (h : n < 2 ^ k) : bitLength n ≤ k := by
  rw [bitLength]
  split
  · omega
  · rename_i hn
    exact Nat.succ_le_of_lt ((Nat.log2_lt hn).mpr h)

end

/-! ## Shortest digits -/

section
variable {n d m precision fuel : Nat} {e k top : Int} {s : Scaled}

/-- The number that is meant. -/
def Scaled.value (s : Scaled) : ℚ := s.digits * 10 ^ s.exponent

theorem leadingExponent_le (h : (bitLength n : Int) - bitLength d ≤ 1023) :
    leadingExponent n d ≤ 308 := by
  unfold leadingExponent
  dsimp only
  split
  · omega
  split
  · omega
  split <;> omega

/-- A neighbour on a grid is not more than one unit larger than the number. -/
theorem neighbour?_le (h : neighbour? m e k = some s) :
    s.exponent = k ∧ s.value ≤ m * 2 ^ e + 10 ^ k := by
  have hp : (0 : ℚ) < 10 ^ k := zpow_pos (by norm_num) k
  have hd := Binary64.ratio_pos m e
  have hquotient : (((Binary64.ratio m e).1 * Nat.pow 10 (-k).toNat : Nat) : ℚ) /
      ((Binary64.ratio m e).2 * Nat.pow 10 k.toNat : Nat) * 10 ^ k = m * 2 ^ e := by
    have hbq : ((Binary64.ratio m e).2 : ℚ) ≠ 0 := by exact_mod_cast hd.ne'
    rw [← Binary64.ratio_div]
    obtain ⟨j,rfl | rfl⟩ := k.eq_nat_or_neg
    · simp
      field_simp
    · simp
      field_simp
  have hdigits : s.exponent = k ∧ s.digits ≤
      (Binary64.ratio m e).1 * Nat.pow 10 (-k).toNat /
        ((Binary64.ratio m e).2 * Nat.pow 10 k.toNat) + 1 := by
    unfold neighbour? at h
    dsimp only at h
    split at h
    · cases h
      refine ⟨rfl,?_⟩
      rw [roundDiv]
      dsimp only
      split <;> omega
    · cases h
      exact ⟨rfl,Nat.le_succ _⟩
    · cases h
      exact ⟨rfl,le_rfl⟩
    · cases h
  refine ⟨hdigits.1,?_⟩
  generalize (Binary64.ratio m e).1 * Nat.pow 10 (-k).toNat = a at *
  generalize (Binary64.ratio m e).2 * Nat.pow 10 k.toNat = b at *
  have hcast : (s.digits : ℚ) ≤ (a / b : Nat) + 1 := by exact_mod_cast hdigits.2
  have hfloor : ((a / b : Nat) : ℚ) ≤ a / b := Nat.cast_div_le
  rw [Scaled.value,hdigits.1]
  calc (s.digits : ℚ) * 10 ^ k ≤ (a / b + 1) * 10 ^ k :=
        mul_le_mul_of_nonneg_right (hcast.trans (by linarith)) hp.le
    _ = m * 2 ^ e + 10 ^ k := by rw [add_mul,hquotient,one_mul]

theorem searchGrids_le (h : 0 < precision) :
    (searchGrids m e top precision fuel).value ≤ m * 2 ^ e + 10 ^ top := by
  have hnonneg : (0 : ℚ) ≤ m * 2 ^ e :=
    mul_nonneg (Nat.cast_nonneg m) (zpow_nonneg (by norm_num) e)
  have htop : (0 : ℚ) < 10 ^ top := zpow_pos (by norm_num) top
  induction fuel generalizing precision with
  | zero =>
      rw [searchGrids,Scaled.value]
      simp only [Nat.cast_zero,zero_mul]
      linarith
  | succ fuel ih =>
      rw [searchGrids]
      split
      · rename_i s hs
        refine (neighbour?_le hs).2.trans (add_le_add_right ?_ _)
        exact zpow_le_zpow_right₀ (by norm_num) (by omega)
      · exact ih (Nat.succ_pos precision)

theorem Scaled.strip_value (s : Scaled) : s.strip.value = s.value := by
  fun_induction Scaled.strip s with
  | case1 s h ih =>
      rw [ih,Scaled.value,Scaled.value,zpow_add_one₀ (by norm_num)]
      have hdigits : (s.digits : ℚ) = (s.digits / 10 : Nat) * 10 := by
        exact_mod_cast (Nat.div_mul_cancel (Nat.dvd_of_mod_eq_zero h.2)).symm
      rw [hdigits]
      ring
  | case2 s h => rfl

theorem ratio_length_le (hm : m < 2 ^ 53) (he : e ≤ Binary64.maxExponent) :
    (bitLength (Binary64.ratio m e).1 : Int) - bitLength (Binary64.ratio m e).2 ≤ 1023 := by
  have hone : bitLength 1 = 1 := by decide
  rw [Binary64.maxExponent] at he
  rw [Binary64.ratio]
  split
  · have hlt : m <<< e.toNat < 2 ^ (53 + e.toNat) := by
      rw [Nat.shiftLeft_eq,Nat.pow_add]
      exact Nat.mul_lt_mul_of_pos_right hm (Nat.pow_pos (by decide))
    have := bitLength_le hlt
    dsimp only
    omega
  · have := bitLength_le hm
    dsimp only
    omega

/-- Shortest digits keep within the orders of magnitude of the format. -/
theorem shortest_le (hm : m < 2 ^ 53) (he : e ≤ Binary64.maxExponent) :
    (shortest m e).value < 10 ^ (310 : Int) := by
  rw [shortest]
  split
  · rw [Scaled.value,Nat.cast_zero,zero_mul]
    exact zpow_pos (by norm_num) _
  · dsimp only
    rw [Scaled.strip_value]
    refine (searchGrids_le Nat.one_pos).trans_lt ?_
    have htop : (10 : ℚ) ^ leadingExponent (Binary64.ratio m e).1 (Binary64.ratio m e).2 ≤
        10 ^ (308 : Int) :=
      zpow_le_zpow_right₀ (by norm_num) (leadingExponent_le (ratio_length_le hm he))
    have hpow : (2 : ℚ) ^ (1024 : Int) ≤ 10 ^ (309 : Int) := by
      exact_mod_cast (by decide +kernel : 2 ^ 1024 ≤ 10 ^ 309)
    calc (m : ℚ) * 2 ^ e + 10 ^ leadingExponent _ _
        < 10 ^ (309 : Int) + 10 ^ (308 : Int) :=
          add_lt_add_of_lt_of_le ((Binary64.size_lt hm he).trans_le hpow) htop
      _ ≤ 10 ^ (310 : Int) := by
          exact_mod_cast (by decide +kernel : 10 ^ 309 + 10 ^ 308 ≤ 10 ^ 310)

end

/-! ## Quantizing -/

namespace Decimal

section
variable {tie : Tie} {precision c : Nat} {e q : Int} {negative : Bool} {d : Decimal}

/-- The place before the leading digit of a number that is below a power of ten. -/
theorem place_le {K : Nat} (hc : 0 < c) (h : (c : ℚ) * 10 ^ q < 10 ^ (K : Int)) :
    q + digitCount c ≤ K := by
  have hp : (0 : ℚ) < 10 ^ q := zpow_pos (by norm_num) q
  have hle : (10 : ℚ) ^ ((digitCount c - 1 : Nat) : Int) ≤ c := by
    exact_mod_cast pow_digitCount_le hc
  have hlt : (10 : ℚ) ^ (((digitCount c - 1 : Nat) : Int) + q) < 10 ^ (K : Int) := by
    rw [zpow_add₀ (by norm_num)]
    exact (mul_le_mul_of_nonneg_right hle hp.le).trans_lt h
  have hlen := (zpow_lt_zpow_iff_right₀ (by norm_num : (1 : ℚ) < 10)).mp hlt
  have := digitCount_pos c
  omega

/-- Rounding can bring in one more digit, but none before the place of the last one. -/
theorem digitCount_roundDiv_le (tie : Tie) (c k : Nat) :
    digitCount (roundDiv tie c (10 ^ k)) ≤ max 1 (digitCount c - k + 1) := by
  have hround : roundDiv tie c (10 ^ k) ≤ c / 10 ^ k + 1 := by
    rw [roundDiv]
    split <;> omega
  rw [digitCount_le_iff (by omega)]
  have hlt := (digitCount_le_iff (n := c) (digitCount_pos c)).mp le_rfl
  have hdiv : c / 10 ^ k < 10 ^ (digitCount c - k) := by
    rw [Nat.div_lt_iff_lt_mul (Nat.pow_pos (by decide)),← Nat.pow_add]
    exact hlt.trans_le (Nat.pow_le_pow_right (by decide) (by omega))
  calc roundDiv tie c (10 ^ k) ≤ 10 ^ (digitCount c - k) := hround.trans hdiv
    _ < 10 ^ (digitCount c - k + 1) := Nat.pow_lt_pow_right (by decide) (Nat.lt_succ_self _)
    _ ≤ 10 ^ max 1 (digitCount c - k + 1) :=
      Nat.pow_le_pow_right (by decide) (le_max_right _ _)

theorem shifted_zero (tie : Tie) (places : Int) : shifted tie 0 places = 0 := by
  rw [shifted]
  split
  · exact Nat.zero_mul _
  · simp [roundDiv,Tie.carries]

/-- A coefficient gains the digits it is moved by to the left. Moved to the right it has one more
than are left at most. -/
theorem digitCount_shifted (hc : 0 < c) (tie : Tie) (places : Int) :
    (0 ≤ places → (digitCount (shifted tie c places) : Int) = digitCount c + places) ∧
      (places < 0 → (digitCount (shifted tie c places) : Int) ≤
        max 1 (digitCount c + places + 1)) := by
  rw [shifted]
  split
  · have hdigits : digitCount (c * Nat.pow 10 places.toNat) = _ :=
      digitCount_mul_pow hc places.toNat
    exact ⟨fun _ => by omega,fun _ => by omega⟩
  · have hdigits : digitCount (roundDiv tie c (Nat.pow 10 (-places).toNat)) ≤ _ :=
      digitCount_roundDiv_le tie c (-places).toNat
    exact ⟨fun _ => by omega,fun _ => by omega⟩

/-- Quantizing is not refused if there are digits enough for the coefficient, both as it is and
moved, and the number is below the largest exponent. -/
theorem quantize_eq (tie : Tie) (hlow : leastExponent precision ≤ e) (hhigh : e ≤ largestExponent)
    (hdigits : digitCount c ≤ precision) (hfits : digitCount c + (q - e) ≤ precision)
    (hsize : 0 < c → q + digitCount c ≤ largestExponent) :
    (Decimal.finite negative c q).quantize tie precision e =
      some (.finite negative (shifted tie c (q - e)) e) := by
  rw [quantize,if_neg (by omega)]
  by_cases hc : c = 0
  · rw [if_pos hc,hc,shifted_zero]
  have hpos := digitCount_pos c
  have hplace := hsize (by omega)
  obtain ⟨hleft,hright⟩ := digitCount_shifted (Nat.pos_of_ne_zero hc) tie (q - e)
  rw [if_neg hc,if_neg (by omega)]
  dsimp only
  rw [if_neg]
  rcases le_or_gt 0 (q - e) with h | h
  · have := hleft h
    omega
  · have := hright h
    omega

/-- The decimal of a binary number of the format. -/
theorem ofShortest_lt {x : Binary64} (hx : x.InFormat) (h : ofShortest x = .finite negative c q) :
    (c : ℚ) * 10 ^ q < 10 ^ ((310 : Nat) : Int) := by
  cases x with
  | finite s m e =>
      have hlt := shortest_le hx.mantissa_lt hx.le_maxExponent
      rw [ofShortest] at h
      split at h
      · rename_i hexp
        cases h
        obtain ⟨j,hj⟩ := Int.eq_ofNat_of_zero_le hexp.2.2
        rw [Scaled.value,hj] at hlt
        have hsame : (((shortest m e).digits * Nat.pow 10 ((j : Int).toNat + 1) : Nat) : ℚ) *
            10 ^ (-1 : Int) = (shortest m e).digits * 10 ^ (j : Int) := by
          rw [Int.toNat_natCast,zpow_natCast,zpow_neg_one]
          push_cast [Nat.pow_eq]
          rw [pow_succ]
          field_simp
        rw [hj,hsame]
        exact hlt
      · cases h
        exact hlt
  | _ => cases h

end

end Decimal

end Vetting.Number
