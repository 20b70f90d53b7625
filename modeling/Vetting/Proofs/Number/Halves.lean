import Vetting.Proofs.Number.Places

/-!
# Where halves go

Rounding takes a number to the closest multiple of a unit, and a number half way between two of
them to the one that the tie rule is for: the one away from zero, the one towards zero, or the
even one. A multiple of the unit stays what it is. So does quantizing a decimal, the unit being
the power of ten with the wanted exponent.
-/
namespace Vetting.Number

/-- What becomes of a size half way between `n` and the next whole number. -/
def Tie.settle : Tie → Nat → Nat
  | .up, n => n + 1
  | .down, n => n
  | .even, n => n + n % 2

/-- Whether a tie rule is heeded where `x` is rounded to `y`. -/
def Tie.Heeded (unit x y : ℚ) : Tie → Prop
  | .up => |x| < |y|
  | .down => |y| < |x|
  | .even => ∃ j : Int, y = 2 * j * unit

/-- A number is rounded to a multiple of a unit: half a unit away at most, by the tie rule if it
is half way between two multiples, and not at all if it is a multiple itself. -/
structure Rounded (tie : Tie) (unit x y : ℚ) : Prop where
  multiple : ∃ k : Int, y = k * unit
  near : |y - x| ≤ unit / 2
  half : ∀ k : Int, x = (k + 1 / 2) * unit →
    (y = k * unit ∨ y = (k + 1) * unit) ∧ tie.Heeded unit x y
  same : (∃ k : Int, x = k * unit) → y = x

section
variable {a b n : Nat} {unit : ℚ} {negative : Bool}

/-! ## Quotients -/

theorem roundDiv_mul_self (tie : Tie) (n : Nat) (hb : 0 < b) : roundDiv tie (n * b) b = n := by
  have h := roundDiv_mul_left hb tie n 1
  rwa [roundDiv_one,Nat.mul_one,Nat.mul_comm] at h

theorem roundDiv_half (tie : Tie) (hb : 0 < b) (h : 2 * a = (2 * n + 1) * b) :
    roundDiv tie a b = tie.settle n := by
  have hdouble : 2 * a = 2 * (b * n) + b := by
    rw [h]
    ring
  obtain ⟨hquotient,hremainder⟩ := (Nat.div_mod_unique hb).mpr
    ⟨show a - b * n + b * n = a by omega,show a - b * n < b by omega⟩
  rw [roundDiv,hquotient,hremainder,Tie.carries.eq_def,if_neg (by omega : ¬ 2 * (a - b * n) < b),
    if_neg (by omega : ¬ b < 2 * (a - b * n))]
  cases tie with
  | up => rfl
  | down => rfl
  | even => rcases Nat.mod_two_eq_zero_or_one n with h | h <;> simp [Tie.settle,h]

theorem Tie.settle_cases (tie : Tie) (n : Nat) : tie.settle n = n ∨ tie.settle n = n + 1 := by
  cases tie with
  | up => exact Or.inr rfl
  | down => exact Or.inl rfl
  | even =>
      rw [settle]
      omega

/-! ## Signed multiples -/

theorem withSign_mul (negative : Bool) (q t : ℚ) :
    withSign negative (q * t) = withSign negative q * t := by
  cases negative with
  | false => rfl
  | true => exact (neg_mul q t).symm

theorem exists_withSign (negative : Bool) (n : Nat) : ∃ k : Int, withSign negative n = k := by
  cases negative with
  | false => exact ⟨n,rfl⟩
  | true => exact ⟨-n,by rw [withSign,if_pos rfl]; push_cast; rfl⟩

/-- A size half way between two whole numbers, and these two with its sign. -/
theorem exists_half {q : ℚ} {k : Int} (hq : 0 ≤ q) (h : withSign negative q = k + 1 / 2) :
    ∃ n : Nat, q = n + 1 / 2 ∧ ∀ m : Nat, m = n ∨ m = n + 1 →
      withSign negative m = k ∨ withSign negative m = k + 1 := by
  cases negative with
  | false =>
      have hk : -1 < k := by
        have hlt : (-1 : ℚ) < k := by
          have : q = k + 1 / 2 := h
          linarith
        exact_mod_cast hlt
      obtain ⟨n,rfl⟩ := Int.eq_ofNat_of_zero_le (by omega : 0 ≤ k)
      refine ⟨n,h,?_⟩
      rintro m (rfl | rfl)
      · exact Or.inl rfl
      · exact Or.inr (Nat.cast_succ n)
  | true =>
      have hsize : q = -(k + 1) + 1 / 2 := by
        have : -q = k + 1 / 2 := h
        linarith
      have hk : k < 0 := by
        have hlt : (k : ℚ) < 0 := by linarith
        exact_mod_cast hlt
      obtain ⟨n,hn⟩ := Int.eq_ofNat_of_zero_le (by omega : 0 ≤ -(k + 1))
      have hnq : -((k : ℚ) + 1) = n := by exact_mod_cast hn
      refine ⟨n,by rw [hsize,hnq],?_⟩
      rintro m (rfl | rfl)
      · exact Or.inr (by rw [withSign,if_pos rfl,← hnq,neg_neg])
      · refine Or.inl ?_
        rw [withSign,if_pos rfl,Nat.cast_succ,← hnq]
        ring

/-- The tie rule is heeded by the size that it settles on. -/
theorem Tie.settle_heeded (tie : Tie) (n : Nat) (hu : 0 < unit) :
    tie.Heeded unit (withSign negative ((n + 1 / 2) * unit))
      (withSign negative (tie.settle n * unit)) := by
  have hn : (0 : ℚ) ≤ n := Nat.cast_nonneg n
  have habs {q : ℚ} (hq : 0 ≤ q) : |withSign negative (q * unit)| = q * unit := by
    rw [abs_withSign,abs_of_nonneg (mul_nonneg hq hu.le)]
  cases tie with
  | up =>
      rw [Heeded,habs (by linarith),habs (Nat.cast_nonneg _),settle,Nat.cast_succ]
      exact mul_lt_mul_of_pos_right (by linarith) hu
  | down =>
      rw [Heeded,habs (Nat.cast_nonneg _),habs (by linarith),settle]
      exact mul_lt_mul_of_pos_right (by linarith) hu
  | even =>
      obtain ⟨m,hm⟩ : ∃ m, n + n % 2 = m * 2 := ⟨(n + n % 2) / 2,by omega⟩
      obtain ⟨j,hj⟩ := exists_withSign negative m
      refine ⟨j,?_⟩
      rw [settle,hm,Nat.cast_mul,withSign_mul,withSign_mul,hj,Nat.cast_ofNat]
      ring

/-- A rounded quotient times the unit is what the quotient times the unit is rounded to, with
the same sign. -/
theorem rounded_of_roundDiv (tie : Tie) (a : Nat) (hb : 0 < b) (hu : 0 < unit) :
    Rounded tie unit (withSign negative (a / b * unit))
      (withSign negative (roundDiv tie a b * unit)) := by
  have hbq : (b : ℚ) ≠ 0 := by exact_mod_cast hb.ne'
  have hquotient : (0 : ℚ) ≤ a / b := div_nonneg (Nat.cast_nonneg a) (Nat.cast_nonneg b)
  refine ⟨?_,?_,fun k hk => ?_,?_⟩
  · obtain ⟨k,hk⟩ := exists_withSign negative (roundDiv tie a b)
    exact ⟨k,by rw [withSign_mul,hk]⟩
  · rw [withSign_sub,abs_withSign,← sub_mul,abs_mul,abs_of_pos hu]
    have := mul_le_mul_of_nonneg_right (abs_roundDiv_sub_le tie a hb) hu.le
    linarith
  · rw [withSign_mul,mul_left_inj' hu.ne'] at hk
    obtain ⟨n,hn,hsigned⟩ := exists_half hquotient hk
    have hround : roundDiv tie a b = tie.settle n := by
      refine roundDiv_half tie hb ?_
      rw [div_eq_iff hbq] at hn
      have htwice : 2 * (a : ℚ) = (2 * n + 1) * b := by
        rw [hn]
        ring
      exact_mod_cast htwice
    rw [hround]
    refine ⟨?_,hn ▸ tie.settle_heeded n hu⟩
    rw [withSign_mul]
    exact (hsigned _ (tie.settle_cases n)).imp (fun h => by rw [h]) fun h => by rw [h]
  · rintro ⟨k,hk⟩
    rw [withSign_mul,mul_left_inj' hu.ne'] at hk
    have hsize : (a : ℚ) / b = k.natAbs := by
      rw [← abs_of_nonneg hquotient,← abs_withSign negative,hk,Nat.cast_natAbs,Int.cast_abs]
    have hround : roundDiv tie a b = k.natAbs := by
      rw [div_eq_iff hbq] at hsize
      rw [show a = k.natAbs * b by exact_mod_cast hsize,roundDiv_mul_self tie _ hb]
    rw [hround,hsize]

end

/-! ## Decimals -/

/-- What a coefficient with another exponent means is what the number is rounded to, in units of
the power of ten with that exponent. -/
theorem Decimal.rounded_shifted (tie : Tie) (negative : Bool) (c : Nat) (q e : Int) :
    Rounded tie (10 ^ e) (withSign negative (c * 10 ^ q))
      (withSign negative (shifted tie c (q - e) * 10 ^ e)) := by
  have hunit : (0 : ℚ) < 10 ^ e := zpow_pos (by norm_num) e
  have hpow : (10 : ℚ) ^ (q - e) * 10 ^ e = 10 ^ q := by
    rw [← zpow_add₀ (by norm_num),sub_add_cancel]
  rcases le_or_gt 0 (q - e) with h | h
  · obtain ⟨k,hk⟩ := Int.eq_ofNat_of_zero_le h
    have hsize : (c : ℚ) * 10 ^ q = (c * Nat.pow 10 k : Nat) / (1 : Nat) * 10 ^ e := by
      rw [← hpow,hk,zpow_natCast,Nat.cast_one,div_one]
      push_cast [Nat.pow_eq]
      ring
    have hshifted : shifted tie c (q - e) = roundDiv tie (c * Nat.pow 10 k) 1 := by
      rw [shifted,if_pos h,roundDiv_one,hk]
      rfl
    rw [hsize,hshifted]
    exact rounded_of_roundDiv tie _ Nat.one_pos hunit
  · obtain ⟨k,hk⟩ := Int.eq_ofNat_of_zero_le (by omega : 0 ≤ -(q - e))
    have hsize : (c : ℚ) * 10 ^ q = c / (Nat.pow 10 k : Nat) * 10 ^ e := by
      rw [← hpow,show q - e = -(k : Int) by omega,zpow_neg,zpow_natCast]
      push_cast [Nat.pow_eq]
      ring
    have hshifted : shifted tie c (q - e) = roundDiv tie c (Nat.pow 10 k) := by
      rw [shifted,if_neg (by omega),hk]
      rfl
    rw [hsize,hshifted]
    exact rounded_of_roundDiv tie c (Nat.pow_pos (by decide)) hunit

end Vetting.Number
