import Mathlib.Data.Int.Log
import Mathlib.Data.Rat.Floor
import Mathlib.Tactic.FieldSimp
import Mathlib.Tactic.GCongr
import Mathlib.Tactic.NormNum
import Mathlib.Tactic.Positivity
import Mathlib.Tactic.Ring
import Vetting.Number.Decimal

/-!
# The binary number nearest to a decimal

A quotient is read as the binary number nearest to it. How the quotient is written plays no
part in this: its exponent is found from its size alone, and what is left over when the
mantissa is cut off is the same share of the divisor in every written form. The same holds of
a coefficient with a power of ten, since the orders of magnitude that are settled beforehand
are settled as the quotient would be.
-/
namespace Vetting.Number

theorem bitLength_bounds {n : Nat} (hn : 0 < n) :
    0 < bitLength n ∧ 2 ^ (bitLength n - 1) ≤ n ∧ n < 2 ^ bitLength n := by
  have hne : n ≠ 0 := by omega
  rw [bitLength,if_neg hne,Nat.add_sub_cancel]
  exact ⟨Nat.succ_pos _,Nat.log2_self_le hne,Nat.lt_log2_self⟩

theorem roundDiv_mul_left {c : Nat} (hc : 0 < c) (t : Tie) (n d : Nat) :
    roundDiv t (c * n) (c * d) = roundDiv t n d := by
  have hlt : ∀ a b : Nat, 2 * (c * a) < c * b ↔ 2 * a < b := by
    intro a b
    rw [Nat.mul_left_comm]
    exact Nat.mul_lt_mul_left hc
  have hgt : ∀ a b : Nat, c * b < 2 * (c * a) ↔ b < 2 * a := by
    intro a b
    rw [Nat.mul_left_comm 2]
    exact Nat.mul_lt_mul_left hc
  have hcarries : ∀ q r : Nat, t.carries q (c * r) (c * d) = t.carries q r d := by
    intro q r
    unfold Tie.carries
    simp only [hlt,hgt]
  rw [roundDiv,Nat.mul_div_mul_left n d hc,Nat.mul_mod_mul_left,hcarries]
  rfl

/-- Rounding looks at the quotient and not at how it is written. -/
theorem roundDiv_congr {a b c d : Nat} (hb : 0 < b) (hd : 0 < d)
    (h : (a : ℚ) / b = c / d) (t : Tie) : roundDiv t a b = roundDiv t c d := by
  have hbq : (b : ℚ) ≠ 0 := by exact_mod_cast hb.ne'
  have hdq : (d : ℚ) ≠ 0 := by exact_mod_cast hd.ne'
  rw [div_eq_div_iff hbq hdq] at h
  have hn : d * a = b * c := by
    rw [Nat.mul_comm d,Nat.mul_comm b]
    exact_mod_cast h
  rw [← roundDiv_mul_left hd t a b,← roundDiv_mul_left hb t c d,hn,Nat.mul_comm d b]

namespace Binary64

/-! ## Quotients -/

theorem overPower_pos {d : Nat} (hd : 0 < d) (n : Nat) (e : Int) :
    0 < (overPower n d e).2 := by
  unfold overPower
  split
  · rw [Nat.shiftLeft_eq]
    positivity
  · exact hd

theorem overPower_div (n d : Nat) (e : Int) :
    ((overPower n d e).1 : ℚ) / (overPower n d e).2 = (n : ℚ) / d / 2 ^ e := by
  unfold overPower
  split
  · rename_i he
    obtain ⟨k,rfl⟩ := Int.eq_ofNat_of_zero_le he
    rw [Nat.shiftLeft_eq,Int.toNat_natCast,zpow_natCast]
    push_cast
    rw [div_div]
  · rename_i he
    obtain ⟨k,hk⟩ := Int.eq_ofNat_of_zero_le (show 0 ≤ -e by omega)
    have hek : e = -(k : Int) := by omega
    rw [hek,neg_neg,Nat.shiftLeft_eq,Int.toNat_natCast,zpow_neg,zpow_natCast]
    push_cast
    rw [div_inv_eq_mul]
    ring

/-- The binary order of magnitude of a quotient, up to one, from the lengths of its parts. -/
theorem log_bounds {n d : Nat} (hn : 0 < n) (hd : 0 < d) :
    (bitLength n : Int) - bitLength d - 1 ≤ Int.log 2 ((n : ℚ) / d) ∧
      Int.log 2 ((n : ℚ) / d) ≤ (bitLength n : Int) - bitLength d := by
  obtain ⟨hbn,hnl,hnu⟩ := bitLength_bounds hn
  obtain ⟨hbd,hdl,hdu⟩ := bitLength_bounds hd
  have hnq : (0 : ℚ) < n := by exact_mod_cast hn
  have hdq : (0 : ℚ) < d := by exact_mod_cast hd
  have hnl' : (2 : ℚ) ^ (bitLength n - 1) ≤ n := by exact_mod_cast hnl
  have hnu' : (n : ℚ) < 2 ^ bitLength n := by exact_mod_cast hnu
  have hdl' : (2 : ℚ) ^ (bitLength d - 1) ≤ d := by exact_mod_cast hdl
  have hdu' : (d : ℚ) < 2 ^ bitLength d := by exact_mod_cast hdu
  have hq : (0 : ℚ) < n / d := div_pos hnq hdq
  constructor
  · rw [← Int.zpow_le_iff_le_log (by decide) hq,le_div_iff₀ hdq]
    have he : (bitLength n : Int) - bitLength d - 1 =
        ((bitLength n - 1 : Nat) : Int) - (bitLength d : Nat) := by omega
    rw [he,zpow_sub₀ (by norm_num),zpow_natCast,zpow_natCast]
    calc (2 : ℚ) ^ (bitLength n - 1) / 2 ^ bitLength d * d
        ≤ 2 ^ (bitLength n - 1) / 2 ^ bitLength d * 2 ^ bitLength d := by gcongr
      _ = 2 ^ (bitLength n - 1) := by field_simp
      _ ≤ n := hnl'
  · rw [← Int.lt_add_one_iff,← Int.lt_zpow_iff_log_lt (by decide) hq,div_lt_iff₀ hdq]
    have he : (bitLength n : Int) - bitLength d + 1 =
        (bitLength n : Int) - ((bitLength d - 1 : Nat) : Int) := by omega
    rw [he,zpow_sub₀ (by norm_num),zpow_natCast,zpow_natCast]
    calc (n : ℚ) < 2 ^ bitLength n := hnu'
      _ = 2 ^ bitLength n / 2 ^ (bitLength d - 1) * 2 ^ (bitLength d - 1) := by field_simp
      _ ≤ 2 ^ bitLength n / 2 ^ (bitLength d - 1) * d := by gcongr

/-- The exponent of a quotient is a matter of its size. -/
theorem exponentFor_eq {n d : Nat} (hn : 0 < n) (hd : 0 < d) :
    exponentFor n d = max minExponent (Int.log 2 ((n : ℚ) / d) - 52) := by
  obtain ⟨hlow,hhigh⟩ := log_bounds hn hd
  have hq : (0 : ℚ) < n / d := div_pos (by exact_mod_cast hn) (by exact_mod_cast hd)
  have hfits : ∀ low : Int, Nat.pow 2 53 ≤ (overPower n d low).1 / (overPower n d low).2 ↔
      low + 53 ≤ Int.log 2 ((n : ℚ) / d) := by
    intro low
    have hs := overPower_pos hd n low
    have hsq : (0 : ℚ) < (overPower n d low).2 := by exact_mod_cast hs
    have hlow : (0 : ℚ) < 2 ^ low := zpow_pos (by norm_num) low
    rw [Nat.le_div_iff_mul_le hs,← Int.zpow_le_iff_le_log (by decide) hq,
      ← Nat.cast_le (α := ℚ),Nat.cast_mul,← le_div_iff₀ hsq,overPower_div,
      le_div_iff₀ hlow,Int.add_comm,zpow_add₀ (by norm_num)]
    norm_num
  unfold exponentFor
  dsimp only
  split
  · rename_i h
    rw [hfits] at h
    congr 1
    omega
  · rename_i h
    rw [hfits] at h
    congr 1
    omega

/-- A quotient is read in the same way however it is written. -/
theorem ofRatio_congr {a b c d : Nat} (hb : 0 < b) (hd : 0 < d)
    (h : (a : ℚ) / b = c / d) (negative : Bool) :
    ofRatio negative a b = ofRatio negative c d := by
  have hbq : (b : ℚ) ≠ 0 := by exact_mod_cast hb.ne'
  have hdq : (d : ℚ) ≠ 0 := by exact_mod_cast hd.ne'
  have hzero : a = 0 ↔ c = 0 := by
    have hq : (a : ℚ) / b = 0 ↔ (c : ℚ) / d = 0 := by rw [h]
    simpa [hbq,hdq] using hq
  by_cases ha : a = 0
  · simp [ofRatio,ha,hzero.mp ha]
  · have hc : c ≠ 0 := mt hzero.mpr ha
    have he : exponentFor a b = exponentFor c d := by
      rw [exponentFor_eq (by omega) hb,exponentFor_eq (by omega) hd,h]
    have hround : ∀ e, roundDiv .even (overPower a b e).1 (overPower a b e).2 =
        roundDiv .even (overPower c d e).1 (overPower c d e).2 := by
      intro e
      refine roundDiv_congr (overPower_pos hb _ _) (overPower_pos hd _ _) ?_ _
      rw [overPower_div,overPower_div,h]
    unfold ofRatio
    rw [if_neg (by omega),if_neg (by omega)]
    simp only [he,hround]

theorem settle_of_large {e : Int} (h : maxExponent < e) (negative : Bool) (m : Nat) :
    settle negative m e = .infinite negative := by
  by_cases hm : m = Nat.pow 2 53
  · simp only [settle,if_pos hm,if_pos (show maxExponent < e + 1 by omega)]
  · simp only [settle,if_neg hm,if_pos h]

/-- A quotient beyond the largest number. -/
theorem ofRatio_of_large {n d : Nat} (hd : 0 < d) (h : (2 : ℚ) ^ (1024 : Int) ≤ n / d)
    (negative : Bool) : ofRatio negative n d = .infinite negative := by
  have hp : (0 : ℚ) < 2 ^ (1024 : Int) := zpow_pos (by norm_num) _
  have hq := hp.trans_le h
  have hn : 0 < n := by
    rcases Nat.eq_zero_or_pos n with rfl | hn
    · simp at hq
    · exact hn
  have hlog := (Int.zpow_le_iff_le_log (b := 2) (by decide) hq).mp h
  have he : maxExponent < exponentFor n d := by
    rw [exponentFor_eq hn hd,maxExponent]
    omega
  rw [ofRatio,if_neg (by omega)]
  exact settle_of_large he negative _

/-- A quotient that is nearer to zero than to the least positive number. -/
theorem ofRatio_of_small {n d : Nat} (hd : 0 < d) (h : (n : ℚ) / d < 2 ^ (-1075 : Int))
    (negative : Bool) : ofRatio negative n d = zero negative := by
  rcases Nat.eq_zero_or_pos n with rfl | hn
  · simp [ofRatio]
  have hq : (0 : ℚ) < n / d := div_pos (by exact_mod_cast hn) (by exact_mod_cast hd)
  have hlog := (Int.lt_zpow_iff_log_lt (b := 2) (by decide) hq).mp h
  have he : exponentFor n d = minExponent := by
    rw [exponentFor_eq hn hd,minExponent]
    omega
  have hhalf : 2 * (overPower n d minExponent).1 < (overPower n d minExponent).2 := by
    have hs : (0 : ℚ) < (overPower n d minExponent).2 := by
      exact_mod_cast overPower_pos hd n minExponent
    have hp : (0 : ℚ) < 2 ^ minExponent := zpow_pos (by norm_num) _
    have he : (2 : ℚ) ^ (-1075 : Int) = 2⁻¹ * 2 ^ minExponent := by
      rw [← zpow_neg_one,← zpow_add₀ (by norm_num)]
      rfl
    have hr : ((overPower n d minExponent).1 : ℚ) / (overPower n d minExponent).2 < 2⁻¹ := by
      rw [overPower_div,div_lt_iff₀ hp,← he]
      exact h
    rw [div_lt_iff₀ hs,← div_eq_inv_mul,lt_div_iff₀ (by norm_num),mul_comm] at hr
    exact_mod_cast hr
  have hround : roundDiv .even (overPower n d minExponent).1 (overPower n d minExponent).2 =
      0 := by
    have hlt : (overPower n d minExponent).1 < (overPower n d minExponent).2 := by omega
    rw [roundDiv,Nat.div_eq_of_lt hlt,Nat.mod_eq_of_lt hlt,Tie.carries,if_pos hhalf]
    rfl
  rw [ofRatio,if_neg (by omega)]
  dsimp only
  rw [he,hround]
  rfl

/-! ## Coefficients with a power of ten -/

theorem pow_digitsWithin_le {n : Nat} (hn : 0 < n) : 10 ^ digitsWithin (bitLength n) ≤ n := by
  obtain ⟨-,hl,-⟩ := bitLength_bounds hn
  refine le_trans ?_ hl
  rw [← Nat.pow_le_pow_iff_left (n := 10) (by decide)]
  have hd : digitsWithin (bitLength n) * 10 ≤ 3 * (bitLength n - 1) := by
    unfold digitsWithin
    omega
  calc (10 ^ digitsWithin (bitLength n)) ^ 10
      = 10 ^ (digitsWithin (bitLength n) * 10) := (Nat.pow_mul ..).symm
    _ ≤ 10 ^ (3 * (bitLength n - 1)) := Nat.pow_le_pow_right (by decide) hd
    _ = (10 ^ 3) ^ (bitLength n - 1) := Nat.pow_mul ..
    _ ≤ (2 ^ 10) ^ (bitLength n - 1) := Nat.pow_le_pow_left (by decide) _
    _ = (2 ^ (bitLength n - 1)) ^ 10 := Nat.pow_right_comm ..

theorem lt_pow_digitsBeyond {n : Nat} (hn : 0 < n) : n < 10 ^ digitsBeyond (bitLength n) := by
  obtain ⟨-,-,hu⟩ := bitLength_bounds hn
  refine lt_of_lt_of_le hu ?_
  rw [← Nat.pow_le_pow_iff_left (n := 93) (by decide)]
  have hd : 28 * bitLength n ≤ digitsBeyond (bitLength n) * 93 := by
    unfold digitsBeyond
    omega
  calc (2 ^ bitLength n) ^ 93
      = (2 ^ 93) ^ bitLength n := Nat.pow_right_comm ..
    _ ≤ (10 ^ 28) ^ bitLength n := Nat.pow_le_pow_left (by decide) _
    _ = 10 ^ (28 * bitLength n) := (Nat.pow_mul ..).symm
    _ ≤ 10 ^ (digitsBeyond (bitLength n) * 93) := Nat.pow_le_pow_right (by decide) hd
    _ = (10 ^ digitsBeyond (bitLength n)) ^ 93 := Nat.pow_mul ..

theorem two_pow_le_ten_pow : (2 : ℚ) ^ (1075 : Int) ≤ 10 ^ (401 : Int) := by
  calc (2 : ℚ) ^ (1075 : Int) ≤ 2 ^ (3 * 401 : Int) :=
      zpow_le_zpow_right₀ (by norm_num) (by decide)
    _ = (2 ^ (3 : Int)) ^ (401 : Int) := zpow_mul ..
    _ ≤ 10 ^ (401 : Int) := zpow_le_zpow_left₀ (by decide) (by norm_num) (by norm_num)

section
variable {n m : Nat} {k l : Int}

theorem large_of_digitsWithin (hn : 0 < n) (h : 400 < (digitsWithin (bitLength n) : Int) + k) :
    (2 : ℚ) ^ (1024 : Int) ≤ n * 10 ^ k := by
  have hw : (10 : ℚ) ^ digitsWithin (bitLength n) ≤ n := by exact_mod_cast pow_digitsWithin_le hn
  calc (2 : ℚ) ^ (1024 : Int) ≤ 2 ^ (1075 : Int) := zpow_le_zpow_right₀ (by norm_num) (by decide)
    _ ≤ 10 ^ (401 : Int) := two_pow_le_ten_pow
    _ ≤ 10 ^ ((digitsWithin (bitLength n) : Int) + k) :=
      zpow_le_zpow_right₀ (by norm_num) (by omega)
    _ = 10 ^ digitsWithin (bitLength n) * 10 ^ k := by rw [zpow_add₀ (by norm_num),zpow_natCast]
    _ ≤ n * 10 ^ k := mul_le_mul_of_nonneg_right hw (zpow_pos (by norm_num) k).le

theorem small_of_digitsBeyond (hn : 0 < n) (h : (digitsBeyond (bitLength n) : Int) + k < -400) :
    (n : ℚ) * 10 ^ k < 2 ^ (-1075 : Int) := by
  have hb : (n : ℚ) < 10 ^ digitsBeyond (bitLength n) := by exact_mod_cast lt_pow_digitsBeyond hn
  calc (n : ℚ) * 10 ^ k < 10 ^ digitsBeyond (bitLength n) * 10 ^ k :=
      mul_lt_mul_of_pos_right hb (zpow_pos (by norm_num) k)
    _ = 10 ^ ((digitsBeyond (bitLength n) : Int) + k) := by
      rw [zpow_add₀ (by norm_num),zpow_natCast]
    _ ≤ 10 ^ (-401 : Int) := zpow_le_zpow_right₀ (by norm_num) (by omega)
    _ = (10 ^ (401 : Int))⁻¹ := zpow_neg ..
    _ ≤ (2 ^ (1075 : Int))⁻¹ := inv_anti₀ (zpow_pos (by norm_num) _) two_pow_le_ten_pow
    _ = 2 ^ (-1075 : Int) := (zpow_neg ..).symm

/-- A coefficient with a power of ten is read as any quotient that it equals. -/
theorem ofScaled_eq {a b : Nat} (hn : 0 < n) (hb : 0 < b) (h : (n : ℚ) * 10 ^ k = a / b)
    (negative : Bool) : ofScaled negative n k = ofRatio negative a b := by
  unfold ofScaled
  dsimp only
  rw [if_neg (by omega)]
  split
  · rename_i hlarge
    exact (ofRatio_of_large hb (h ▸ large_of_digitsWithin hn hlarge) negative).symm
  split
  · rename_i hsmall
    exact (ofRatio_of_small hb (h ▸ small_of_digitsBeyond hn hsmall) negative).symm
  split
  · rename_i hk
    obtain ⟨j,rfl⟩ := Int.eq_ofNat_of_zero_le hk
    refine ofRatio_congr Nat.one_pos hb ?_ negative
    rw [← h,Int.toNat_natCast,zpow_natCast]
    simp
  · rename_i hk
    obtain ⟨j,hj⟩ := Int.eq_ofNat_of_zero_le (show 0 ≤ -k by omega)
    refine ofRatio_congr (Nat.pow_pos (by decide)) hb ?_ negative
    rw [← h,hj,Int.toNat_natCast,show k = -(j : Int) by omega,zpow_neg,zpow_natCast]
    simp [div_eq_mul_inv]

/-- Equal decimals are read as the same number. -/
theorem ofScaled_congr (hn : 0 < n) (hm : 0 < m) (h : (n : ℚ) * 10 ^ k = m * 10 ^ l)
    (negative : Bool) : ofScaled negative n k = ofScaled negative m l := by
  have hratio : ∃ a b : Nat, 0 < b ∧ (m : ℚ) * 10 ^ l = a / b := by
    obtain ⟨j,rfl | rfl⟩ := l.eq_nat_or_neg
    · exact ⟨m * 10 ^ j,1,Nat.one_pos,by simp⟩
    · exact ⟨m,10 ^ j,Nat.pow_pos (by decide),by simp [div_eq_mul_inv]⟩
  obtain ⟨a,b,hb,hab⟩ := hratio
  rw [ofScaled_eq hn hb (h.trans hab),ofScaled_eq hm hb hab]

end

end Binary64

end Vetting.Number
