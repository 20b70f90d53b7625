import Vetting.Proofs.Number.Places

/-!
# Seventeen digits

The grids that shortest digits are looked for on begin below the leading digit of the number,
so that a neighbour on the grid of some digits has no more digits than that, or is the next
power of ten, which loses its zeros. There are seventeen grids, and so seventeen digits at most.
-/
namespace Vetting.Number

/-! ## The leading digit -/

section
variable {n d : Nat} {t g : Int}

theorem powerBelow_iff (hd : 0 < d) : powerBelow t n d = true ↔ (10 : ℚ) ^ t ≤ n / d := by
  have hdq : (0 : ℚ) < d := by exact_mod_cast hd
  rw [powerBelow,decide_eq_true_eq,le_div_iff₀ hdq]
  obtain ⟨j,rfl | rfl⟩ := t.eq_nat_or_neg
  · simp only [Int.toNat_natCast,Int.toNat_neg_natCast,Nat.pow_eq,pow_zero,mul_one,zpow_natCast]
    exact_mod_cast Iff.rfl
  · have hp : (0 : ℚ) < 10 ^ j := by positivity
    simp only [neg_neg,Int.toNat_natCast,Int.toNat_neg_natCast,Nat.pow_eq,pow_zero,one_mul,
      zpow_neg,zpow_natCast]
    rw [inv_mul_le_iff₀ hp,mul_comm (10 ^ j : ℚ)]
    exact_mod_cast Iff.rfl

/-- Powers of two below powers of ten: the logarithm of ten lies between 3.321 and 3.322. -/
theorem two_zpow_le_ten_zpow (h : 0 ≤ g ∧ 1000 * t ≤ 3321 * g ∨ g ≤ 0 ∧ 1000 * t ≤ 3322 * g) :
    (2 : ℚ) ^ t ≤ 10 ^ g := by
  have hlow : (2 : ℚ) ^ 3321 ≤ 10 ^ 1000 := by
    exact_mod_cast (by decide +kernel : 2 ^ 3321 ≤ 10 ^ 1000)
  have hhigh : (10 : ℚ) ^ 1000 ≤ 2 ^ 3322 := by
    exact_mod_cast (by decide +kernel : 10 ^ 1000 ≤ 2 ^ 3322)
  have htwo : ((2 : ℚ) ^ t) ^ 1000 = 2 ^ (1000 * t) := by
    rw [← zpow_natCast,← zpow_mul,mul_comm]
    rfl
  refine (pow_le_pow_iff_left₀ (zpow_pos (by norm_num) t).le (zpow_pos (by norm_num) g).le
    (by decide : 1000 ≠ 0)).mp ?_
  rw [htwo]
  rcases h with ⟨hg,ht⟩ | ⟨hg,ht⟩
  · obtain ⟨j,rfl⟩ := Int.eq_ofNat_of_zero_le hg
    calc (2 : ℚ) ^ (1000 * t) ≤ 2 ^ ((3321 * j : Nat) : Int) :=
          zpow_le_zpow_right₀ (by norm_num) (by omega)
      _ = (2 ^ 3321) ^ j := by rw [zpow_natCast,pow_mul]
      _ ≤ (10 ^ 1000) ^ j := pow_le_pow_left₀ (pow_pos (by norm_num) _).le hlow j
      _ = (10 ^ (j : Int)) ^ 1000 := by rw [zpow_natCast,pow_right_comm]
  · obtain ⟨j,hj⟩ := Int.eq_ofNat_of_zero_le (neg_nonneg.mpr hg)
    obtain rfl : g = -j := by omega
    calc (2 : ℚ) ^ (1000 * t) ≤ 2 ^ (-((3322 * j : Nat) : Int)) :=
          zpow_le_zpow_right₀ (by norm_num) (by omega)
      _ = ((2 ^ 3322) ^ j)⁻¹ := by rw [zpow_neg,zpow_natCast,pow_mul]
      _ ≤ ((10 ^ 1000) ^ j)⁻¹ :=
        inv_anti₀ (pow_pos (pow_pos (by norm_num) _) j)
          (pow_le_pow_left₀ (pow_pos (by norm_num) _).le hhigh j)
      _ = (10 ^ (-(j : Int))) ^ 1000 := by rw [zpow_neg,zpow_natCast,inv_pow,pow_right_comm]

/-- The leading digit does not stand higher than it is said to. -/
theorem lt_leadingExponent (hn : 0 < n) (hd : 0 < d)
    (hlen : ((bitLength n : Int) - bitLength d).natAbs ≤ 2000) :
    (n : ℚ) / d < 10 ^ (leadingExponent n d + 1) := by
  have hdq : (0 : ℚ) < d := by exact_mod_cast hd
  have hbelow (t : Int) (h : ¬ powerBelow t n d = true) : (n : ℚ) / d < 10 ^ t := by
    rw [powerBelow_iff hd] at h
    exact not_le.mp h
  have hstep {t g : Int} (h : (n : ℚ) / d < 10 ^ t) (htg : t ≤ g) : (n : ℚ) / d < 10 ^ g :=
    h.trans_le (zpow_le_zpow_right₀ (by norm_num) htg)
  unfold leadingExponent
  dsimp only
  generalize hguess : ((bitLength n : Int) - bitLength d) * 30103 / 100000 = guess
  split
  · obtain ⟨-,-,hnu⟩ := bitLength_bounds hn
    obtain ⟨hbd,hdl,-⟩ := bitLength_bounds hd
    have hnu' : (n : ℚ) < 2 ^ (bitLength n : Int) := by exact_mod_cast hnu
    have hdl' : (2 : ℚ) ^ ((bitLength d : Int) - 1) ≤ d := by
      have hcast : (bitLength d : Int) - 1 = ((bitLength d - 1 : Nat) : Int) := by omega
      rw [hcast]
      exact_mod_cast hdl
    have hsize : (n : ℚ) / d < 2 ^ ((bitLength n : Int) - bitLength d + 1) := by
      rw [div_lt_iff₀ hdq]
      calc (n : ℚ) < 2 ^ (bitLength n : Int) := hnu'
        _ = 2 ^ ((bitLength n : Int) - bitLength d + 1) * 2 ^ ((bitLength d : Int) - 1) := by
          rw [← zpow_add₀ (by norm_num)]
          congr 1
          ring
        _ ≤ 2 ^ ((bitLength n : Int) - bitLength d + 1) * d :=
          mul_le_mul_of_nonneg_left hdl' (zpow_pos (by norm_num) _).le
    refine hsize.trans_le (two_zpow_le_ten_zpow ?_)
    omega
  · rename_i h
    have h := hbelow _ h
    split
    · exact h
    split
    · exact hstep (hbelow _ ‹_›) (by omega)
    · exact hstep (hbelow _ ‹_›) (by omega)

end

/-! ## The digits -/

section
variable {m precision fuel k : Nat} {e top : Int} {s : Scaled}

/-- A neighbour on the grid of some digits has so many digits, or it is the next power of ten. -/
theorem neighbour?_digits_le (hsize : (m : ℚ) * 2 ^ e < 10 ^ (top + 1))
    (h : neighbour? m e (top - precision + 1) = some s) : s.digits ≤ 10 ^ precision := by
  obtain ⟨hexp,hvalue⟩ := neighbour?_le h
  have hunit : (0 : ℚ) < 10 ^ (top - precision + 1) := zpow_pos (by norm_num) _
  have htop : (10 : ℚ) ^ (top + 1) = 10 ^ precision * 10 ^ (top - precision + 1) := by
    rw [← zpow_natCast,← zpow_add₀ (by norm_num)]
    congr 1
    ring
  rw [Scaled.value,hexp] at hvalue
  have hlt : (s.digits : ℚ) * 10 ^ (top - precision + 1) <
      (10 ^ precision + 1) * 10 ^ (top - precision + 1) := by
    rw [add_mul,one_mul,← htop]
    linarith
  have hdigits : (s.digits : ℚ) < 10 ^ precision + 1 := lt_of_mul_lt_mul_right hlt hunit.le
  exact Nat.lt_succ_iff.mp (by exact_mod_cast hdigits)

theorem searchGrids_digits_le (hsize : (m : ℚ) * 2 ^ e < 10 ^ (top + 1))
    (hlast : precision + fuel ≤ k + 1) : (searchGrids m e top precision fuel).digits ≤ 10 ^ k := by
  induction fuel generalizing precision with
  | zero => exact Nat.zero_le _
  | succ fuel ih =>
      rw [searchGrids]
      split
      · rename_i s hs
        exact (neighbour?_digits_le hsize hs).trans (Nat.pow_le_pow_right (by decide) (by omega))
      · exact ih (by omega)

theorem Scaled.strip_digits_lt (hk : 0 < k) (h : s.digits ≤ 10 ^ k) : s.strip.digits < 10 ^ k := by
  fun_induction Scaled.strip s with
  | case1 s hs ih => exact ih ((Nat.div_le_self _ _).trans h)
  | case2 s hs =>
      refine lt_of_le_of_ne h fun heq => hs ⟨?_,?_⟩
      · rw [heq]
        exact (Nat.pow_pos (by decide)).ne'
      · rw [heq]
        exact Nat.mod_eq_zero_of_dvd (dvd_pow_self 10 hk.ne')

theorem bitLength_ratio_le (h : (-e).toNat < k) : bitLength (Binary64.ratio m e).2 ≤ k := by
  refine bitLength_le ?_
  rw [Binary64.ratio]
  split
  · exact Nat.one_lt_two_pow (by omega)
  · dsimp only
    rw [Nat.shiftLeft_eq,Nat.one_mul]
    exact Nat.pow_lt_pow_right (by decide) h

theorem shortest_digits_lt (h : Binary64.Fits m e) : (shortest m e).digits < 10 ^ 17 := by
  rw [shortest]
  split
  · exact Nat.pow_pos (by decide)
  · rename_i hm
    dsimp only
    have hd := Binary64.ratio_pos m e
    have hn : 0 < (Binary64.ratio m e).1 := by
      rw [Binary64.ratio]
      split
      · rw [Nat.shiftLeft_eq]
        positivity
      · exact Nat.pos_of_ne_zero hm
    have hlow : bitLength (Binary64.ratio m e).2 ≤ 1075 := by
      have := h.minExponent_le
      rw [Binary64.minExponent] at this
      exact bitLength_ratio_le (by omega)
    have hhigh := ratio_length_le h.mantissa_lt h.le_maxExponent
    have hsize := lt_leadingExponent hn hd (by omega)
    rw [Binary64.ratio_div] at hsize
    exact Scaled.strip_digits_lt (by decide) (searchGrids_digits_le hsize le_rfl)

/-- The decimal of a binary number has seventeen digits at most. -/
theorem Decimal.digitCount_ofShortest_le {x : Binary64} {negative : Bool} {c : Nat} {q : Int}
    (hx : x.InFormat) (h : ofShortest x = .finite negative c q) : digitCount c ≤ 17 := by
  cases x with
  | finite s m e =>
      rw [ofShortest] at h
      split at h
      · rename_i hpoint
        cases h
        have hdigits := (digitCount_le_iff (n := (shortest m e).digits) (digitCount_pos _)).mp le_rfl
        rw [digitCount_le_iff (by decide)]
        calc (shortest m e).digits * 10 ^ ((shortest m e).exponent.toNat + 1)
            < 10 ^ digitCount (shortest m e).digits * 10 ^ ((shortest m e).exponent.toNat + 1) :=
              Nat.mul_lt_mul_of_pos_right hdigits (Nat.pow_pos (by decide))
          _ = 10 ^ (digitCount (shortest m e).digits + ((shortest m e).exponent.toNat + 1)) :=
              (Nat.pow_add ..).symm
          _ ≤ 10 ^ 17 := Nat.pow_le_pow_right (by decide) (by omega)
      · cases h
        exact (digitCount_le_iff (by decide)).mpr (shortest_digits_lt hx)
  | _ => cases h

end

end Vetting.Number
