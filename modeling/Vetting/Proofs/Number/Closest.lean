import Vetting.Proofs.Number.Nearest

/-!
# No binary number is closer

The binary number that a quotient is read as lies closer to it than every other number of the
format, and has an even mantissa if another one lies as close. Only from half a unit beyond the
largest number on there is none, and the quotient is read as an infinity. The same holds of
whole numbers, and of a coefficient with a power of ten.
-/
namespace Vetting.Number

/-- A size with a sign. -/
def withSign (negative : Bool) (q : ℚ) : ℚ := if negative then -q else q

section
variable {a b : Nat} {q t : ℚ}

theorem abs_withSign (negative : Bool) (q : ℚ) : |withSign negative q| = |q| := by
  cases negative with
  | false => rfl
  | true => exact abs_neg q

theorem withSign_sub (negative : Bool) (q t : ℚ) :
    withSign negative q - withSign negative t = withSign negative (q - t) := by
  cases negative with
  | false => rfl
  | true =>
      simp only [withSign,if_true]
      ring

/-- A size is no farther from another one than numbers of these sizes are from each other, and
only as far if the signs play no part. -/
theorem abs_sub_le_withSign (hq : 0 ≤ q) (ht : 0 < t) (s u : Bool) :
    |q - t| ≤ |withSign s q - withSign u t| ∧
      (|withSign s q - withSign u t| = |q - t| → withSign s q = withSign u q) := by
  rcases eq_or_ne s u with rfl | hne
  · rw [withSign_sub,abs_withSign]
    exact ⟨le_rfl,fun _ => rfl⟩
  · have hsum : |withSign s q - withSign u t| = q + t := by
      have hpos : 0 ≤ q + t := by linarith
      cases s <;> cases u <;> simp [withSign] at hne ⊢
      · exact hpos
      · rw [← neg_add',abs_neg,abs_of_nonneg hpos]
    rw [hsum]
    refine ⟨abs_le.mpr ⟨by linarith,by linarith⟩,fun h => ?_⟩
    have hzero : q = 0 := by
      rcases abs_cases (q - t) with ⟨habs,-⟩ | ⟨habs,-⟩ <;> linarith
    cases s <;> cases u <;> simp [withSign,hzero]

/-- Rounding moves a quotient by half a unit at most. -/
theorem abs_roundDiv_sub_le (tie : Tie) (a : Nat) (hb : 0 < b) :
    |(roundDiv tie a b : ℚ) - a / b| ≤ 1 / 2 := by
  have hbq : (0 : ℚ) < b := by exact_mod_cast hb
  obtain ⟨hup,hdown⟩ := roundDiv_near tie a b hb
  have hup' : 2 * ((b : ℚ) * roundDiv tie a b) ≤ 2 * a + b := by exact_mod_cast hup
  have hdown' : 2 * (a : ℚ) ≤ 2 * (b * roundDiv tie a b) + b := by exact_mod_cast hdown
  have ha : (a : ℚ) = a / b * b := by field_simp
  rw [abs_le]
  constructor <;> nlinarith

/-- Where rounding moves a quotient by half a unit, the result is even. -/
theorem even_of_half (hb : 0 < b) (h : |(roundDiv .even a b : ℚ) - a / b| = 1 / 2) :
    roundDiv .even a b % 2 = 0 := by
  have hbq : (0 : ℚ) < b := by exact_mod_cast hb
  have hside : 2 * (b * roundDiv .even a b) = 2 * a + b ∨
      2 * a = 2 * (b * roundDiv .even a b) + b := by
    have ha : (a : ℚ) = a / b * b := by field_simp
    rcases (abs_eq (by norm_num)).mp h with h | h
    · left
      have hq : 2 * ((b : ℚ) * roundDiv .even a b) = 2 * a + b := by nlinarith
      exact_mod_cast hq
    · right
      have hq : 2 * (a : ℚ) = 2 * (b * roundDiv .even a b) + b := by nlinarith
      exact_mod_cast hq
  have hdiv := Nat.div_add_mod a b
  have hmod := Nat.mod_lt a hb
  rw [roundDiv] at hside ⊢
  by_cases hc : Tie.even.carries (a / b) (a % b) b = true
  · rw [if_pos hc,Nat.mul_add] at hside
    have heven : 2 * (a % b) = b := by omega
    rw [Tie.carries,if_neg (by omega),if_neg (by omega)] at hc
    have hodd : a / b % 2 = 1 := by simpa using hc
    rw [if_pos (by simpa [Tie.carries,heven] using hodd)]
    omega
  · rw [if_neg hc] at hside ⊢
    have heven : 2 * (a % b) = b := by omega
    rw [Tie.carries,if_neg (by omega),if_neg (by omega)] at hc
    have hodd : ¬ a / b % 2 = 1 := by simpa using hc
    omega

/-- No whole number lies closer to what was rounded than the result. -/
theorem whole_not_closer {r k : Int} (hr : |(r : ℚ) - t| ≤ 1 / 2) :
    |(r : ℚ) - t| ≤ |(k : ℚ) - t| ∧ (|(k : ℚ) - t| = |(r : ℚ) - t| → k = r ∨ |(r : ℚ) - t| = 1 / 2) := by
  rcases eq_or_ne k r with rfl | hne
  · exact ⟨le_rfl,fun _ => Or.inl rfl⟩
  have hone : (1 : ℚ) ≤ |(k : ℚ) - r| := by
    have : (1 : Int) ≤ |k - r| := Int.one_le_abs (sub_ne_zero.mpr hne)
    exact_mod_cast this
  have htriangle : |(k : ℚ) - r| ≤ |(k : ℚ) - t| + |(r : ℚ) - t| := by
    rw [abs_sub_comm (r : ℚ) t]
    exact abs_sub_le _ _ _
  exact ⟨by linarith,fun h => Or.inr (by linarith)⟩

end

namespace Binary64

/-- Mantissas and exponents of the format, in lowest position. -/
structure Fits (m : Nat) (e : Int) : Prop where
  mantissa_lt : m < 2 ^ 53
  lowest : 2 ^ 52 ≤ m ∨ e = minExponent
  minExponent_le : minExponent ≤ e
  le_maxExponent : e ≤ maxExponent

def InFormat : Binary64 → Prop
  | .finite _ m e => Fits m e
  | _ => True

/-- The number that is meant, unless it is infinite or a NaN. -/
def value? : Binary64 → Option ℚ
  | .finite negative m e => some (withSign negative (m * 2 ^ e))
  | _ => none

/-- Half a unit beyond the largest number of the format. -/
def overflow : ℚ := (2 ^ 54 - 1) * 2 ^ 970

/-- The number of the format that lies closest to a given one. -/
inductive Nearest (q : ℚ) : Binary64 → Prop
  | finite {negative : Bool} {m : Nat} {e : Int} (hfits : Fits m e) (hsize : |q| < overflow)
      (hclose : ∀ y r, InFormat y → y.value? = some r →
        |withSign negative (m * 2 ^ e) - q| ≤ |r - q| ∧
          (|r - q| = |withSign negative (m * 2 ^ e) - q| →
            r = withSign negative (m * 2 ^ e) ∨ m % 2 = 0)) :
      Nearest q (.finite negative m e)
  | infinite {negative : Bool} (hsize : overflow ≤ |q|) (hsign : negative = decide (q < 0)) :
      Nearest q (.infinite negative)

/-! ## The rounded mantissa -/

section
variable {n d m : Nat} {e f : Int}

/-- The mantissa that a quotient is rounded to, before it is put in position. -/
def mantissaFor (n d : Nat) (e : Int) : Nat :=
  roundDiv .even (overPower n d e).1 (overPower n d e).2

theorem abs_mantissaFor_sub_le (hd : 0 < d) (n : Nat) (e : Int) :
    |(mantissaFor n d e : ℚ) - n / d / 2 ^ e| ≤ 1 / 2 := by
  rw [← overPower_div]
  exact abs_roundDiv_sub_le .even _ (overPower_pos hd n e)

theorem even_mantissaFor (hd : 0 < d) (h : |(mantissaFor n d e : ℚ) - n / d / 2 ^ e| = 1 / 2) :
    mantissaFor n d e % 2 = 0 := by
  rw [← overPower_div] at h
  exact even_of_half (overPower_pos hd n e) h

/-- The exponent is such that the mantissa has 53 digits, or fewer if it is the least one. -/
theorem scaled_bounds (hn : 0 < n) (hd : 0 < d) :
    (n : ℚ) / d / 2 ^ exponentFor n d < 2 ^ 53 ∧
      (minExponent < exponentFor n d → (2 : ℚ) ^ 52 ≤ n / d / 2 ^ exponentFor n d) := by
  have hq : (0 : ℚ) < n / d := div_pos (by exact_mod_cast hn) (by exact_mod_cast hd)
  have he := exponentFor_eq hn hd
  have hp : (0 : ℚ) < 2 ^ exponentFor n d := zpow_pos (by norm_num) _
  constructor
  · rw [div_lt_iff₀ hp,← zpow_natCast,← zpow_add₀ (by norm_num)]
    refine (Int.lt_zpow_iff_log_lt (b := 2) (by decide) hq).mpr ?_
    push_cast
    omega
  · intro hlow
    rw [le_div_iff₀ hp,← zpow_natCast,← zpow_add₀ (by norm_num)]
    refine (Int.zpow_le_iff_le_log (b := 2) (by decide) hq).mpr ?_
    push_cast
    omega

theorem mantissaFor_bounds (hn : 0 < n) (hd : 0 < d) :
    mantissaFor n d (exponentFor n d) ≤ 2 ^ 53 ∧
      (2 ^ 52 ≤ mantissaFor n d (exponentFor n d) ∨ exponentFor n d = minExponent) := by
  obtain ⟨hup,hlow⟩ := scaled_bounds hn hd
  have hnear := abs_le.mp (abs_mantissaFor_sub_le hd n (exponentFor n d))
  constructor
  · have hlt : (mantissaFor n d (exponentFor n d) : ℚ) < 2 ^ 53 + 1 := by linarith
    exact Nat.lt_succ_iff.mp (by exact_mod_cast hlt)
  · rcases lt_or_ge minExponent (exponentFor n d) with he | he
    · left
      have hlt : (2 : ℚ) ^ 52 < mantissaFor n d (exponentFor n d) + 1 := by
        linarith [hlow he]
      exact Nat.lt_succ_iff.mp (by exact_mod_cast hlt)
    · right
      have hle : minExponent ≤ exponentFor n d := by
        rw [exponentFor_eq hn hd]
        exact le_max_left _ _
      omega

/-- In units of the last place of the mantissa, no other size of the format lies closer. Sizes
with a lower exponent lie below the power of two that the quotient is at least, and that one is
no closer. -/
theorem size_not_closer {r : Nat} {t : ℚ} {k : Int} (hr : |(r : ℚ) - t| ≤ 1 / 2)
    (heven : |(r : ℚ) - t| = 1 / 2 → r % 2 = 0) (hm : m < 2 ^ 53)
    (hlow : k < 0 → 2 ^ 52 ≤ t) :
    |(r : ℚ) - t| ≤ |m * 2 ^ k - t| ∧
      (|m * 2 ^ k - t| = |(r : ℚ) - t| → (m * 2 ^ k : ℚ) = r ∨ r % 2 = 0) := by
  have hwhole (c : Nat) : |(r : ℚ) - t| ≤ |(c : ℚ) - t| ∧
      (|(c : ℚ) - t| = |(r : ℚ) - t| → (c : ℚ) = r ∨ r % 2 = 0) := by
    obtain ⟨hle,htie⟩ := whole_not_closer (r := r) (k := c) (t := t) (by exact_mod_cast hr)
    refine ⟨by exact_mod_cast hle,fun h => ?_⟩
    refine (htie (by exact_mod_cast h)).imp (fun h => by exact_mod_cast h) fun h => ?_
    exact heven (by exact_mod_cast h)
  rcases le_or_gt 0 k with hk | hk
  · obtain ⟨j,rfl⟩ := Int.eq_ofNat_of_zero_le hk
    have h := hwhole (m * 2 ^ j)
    push_cast at h
    exact h
  · have hbelow : (m * 2 ^ k : ℚ) < 2 ^ 52 := by
      have hmq : (m : ℚ) < 2 ^ 53 := by exact_mod_cast hm
      calc (m * 2 ^ k : ℚ) < 2 ^ 53 * 2 ^ k :=
            mul_lt_mul_of_pos_right hmq (zpow_pos (by norm_num) k)
        _ ≤ 2 ^ 53 * 2 ^ (-1 : Int) :=
            mul_le_mul_of_nonneg_left (zpow_le_zpow_right₀ (by norm_num) (by omega)) (by norm_num)
        _ = 2 ^ 52 := by norm_num
    have hpower : |(r : ℚ) - t| ≤ |2 ^ 52 - t| := by
      have h := (hwhole (2 ^ 52)).1
      rwa [Nat.cast_pow,Nat.cast_ofNat] at h
    have ht := hlow hk
    have hfar : |(2 : ℚ) ^ 52 - t| < |m * 2 ^ k - t| := by
      rw [abs_of_nonpos (by linarith),abs_of_nonpos (by linarith)]
      linarith
    exact ⟨by linarith,fun h => absurd h (by linarith)⟩

/-- A mantissa in position that means the same as the rounded one is closest, and even where it
has to be. -/
theorem close_of_eq (hn : 0 < n) (hd : 0 < d) (negative : Bool)
    (hsame : (m * 2 ^ f : ℚ) = mantissaFor n d (exponentFor n d) * 2 ^ exponentFor n d)
    (heven : mantissaFor n d (exponentFor n d) % 2 = 0 → m % 2 = 0)
    {y : Binary64} {r : ℚ} (hy : InFormat y) (hr : y.value? = some r) :
    |withSign negative (m * 2 ^ f) - withSign negative (n / d)| ≤
        |r - withSign negative (n / d)| ∧
      (|r - withSign negative (n / d)| =
          |withSign negative (m * 2 ^ f) - withSign negative (n / d)| →
        r = withSign negative (m * 2 ^ f) ∨ m % 2 = 0) := by
  have hnear := abs_mantissaFor_sub_le hd n (exponentFor n d)
  have htie := even_mantissaFor (n := n) (e := exponentFor n d) hd
  obtain ⟨-,hlow⟩ := scaled_bounds hn hd
  have hq : (0 : ℚ) < n / d := div_pos (by exact_mod_cast hn) (by exact_mod_cast hd)
  have hmin : minExponent ≤ exponentFor n d := by
    rw [exponentFor_eq hn hd]
    exact le_max_left _ _
  rw [hsame,withSign_sub,abs_withSign]
  generalize exponentFor n d = e at *
  generalize mantissaFor n d e = k at *
  generalize (n : ℚ) / d = q at *
  have hp : (0 : ℚ) < 2 ^ e := zpow_pos (by norm_num) e
  -- Distances are compared in units of the last place.
  have hunits (x : ℚ) : |x * 2 ^ e - q| = |x - q / 2 ^ e| * 2 ^ e := by
    rw [← abs_of_pos hp,← abs_mul,abs_of_pos hp,sub_mul,div_mul_cancel₀ _ hp.ne']
  cases y with
  | finite s c g =>
      cases hr
      have hgrid : (c * 2 ^ g : ℚ) = c * 2 ^ (g - e) * 2 ^ e := by
        rw [mul_assoc,← zpow_add₀ (by norm_num),sub_add_cancel]
      obtain ⟨hle,hclosest⟩ := size_not_closer hnear htie hy.mantissa_lt (k := g - e)
        (fun hneg => hlow (by have := hy.minExponent_le; omega))
      have hnonneg : (0 : ℚ) ≤ c * 2 ^ g :=
        mul_nonneg (Nat.cast_nonneg c) (zpow_nonneg (by norm_num) g)
      obtain ⟨hsize,hsign⟩ := abs_sub_le_withSign hnonneg hq s negative
      have hle' := mul_le_mul_of_nonneg_right hle hp.le
      rw [← hunits,← hunits,← hgrid] at hle'
      refine ⟨hle'.trans hsize,fun h => ?_⟩
      have hequal : |(c * 2 ^ g : ℚ) - q| = |k * 2 ^ e - q| := by linarith
      rw [hsign (h.trans hequal.symm)]
      rw [hgrid,hunits,hunits,mul_left_inj' hp.ne'] at hequal
      refine (hclosest hequal).imp (fun h => ?_) heven
      rw [hgrid,h]
  | _ => cases hr

/-! ## Quotients -/

theorem ofRatio_eq (hn : 0 < n) (hd : 0 < d) (negative : Bool) : ofRatio negative n d =
    settle negative (mantissaFor n d (exponentFor n d)) (exponentFor n d) := by
  rw [ofRatio,if_neg (by omega)]
  rfl

theorem settle_top (negative : Bool) (e : Int) : settle negative (2 ^ 53) e =
    if maxExponent < e + 1 then .infinite negative else .finite negative (2 ^ 52) (e + 1) := rfl

theorem settle_below (hm : m ≠ 2 ^ 53) (negative : Bool) (e : Int) : settle negative m e =
    if maxExponent < e then .infinite negative else .finite negative m e := by
  rw [settle,if_neg (show ¬ m = Nat.pow 2 53 from hm)]

theorem zero_nearest (negative : Bool) : Nearest 0 (zero negative) := by
  have hvalue : withSign negative ((0 : Nat) * 2 ^ minExponent) = 0 := by
    cases negative <;> simp [withSign]
  refine .finite ⟨by norm_num,Or.inr rfl,le_rfl,by decide⟩ (by norm_num [overflow]) ?_
  intro y r hy hr
  rw [hvalue,sub_self,abs_zero]
  exact ⟨abs_nonneg _,fun _ => Or.inr rfl⟩

theorem lt_overflow {t : ℚ} (ht : t < 2 ^ 53) (he : e < maxExponent) : t * 2 ^ e < overflow := by
  have hp : (0 : ℚ) < 2 ^ 970 := by positivity
  have hle : (2 : ℚ) ^ e ≤ 2 ^ (970 : Int) :=
    zpow_le_zpow_right₀ (by norm_num) (by rw [maxExponent] at he; omega)
  calc t * 2 ^ e < 2 ^ 53 * 2 ^ e := mul_lt_mul_of_pos_right ht (zpow_pos (by norm_num) e)
    _ ≤ 2 ^ 53 * 2 ^ 970 := mul_le_mul_of_nonneg_left hle (by norm_num)
    _ ≤ overflow := mul_le_mul_of_nonneg_right (by norm_num) hp.le

theorem overflow_le {t : ℚ} (ht : 2 ^ 52 ≤ t) (he : maxExponent < e) : overflow ≤ t * 2 ^ e := by
  have hp : (0 : ℚ) < 2 ^ 970 := by positivity
  have hle : (2 : ℚ) ^ (2 + 970 : Int) ≤ 2 ^ e :=
    zpow_le_zpow_right₀ (by norm_num) (by rw [maxExponent] at he; omega)
  calc overflow ≤ 2 ^ 54 * 2 ^ 970 := mul_le_mul_of_nonneg_right (by norm_num) hp.le
    _ = 2 ^ 52 * (2 ^ 2 * 2 ^ 970) := by rw [← mul_assoc,← pow_add (2 : ℚ) 52 2]
    _ = 2 ^ 52 * 2 ^ (2 + 970 : Int) := by
        rw [zpow_add₀ (by norm_num)]
        rfl
    _ ≤ t * 2 ^ e := mul_le_mul ht hle (zpow_pos (by norm_num) _).le (by linarith)

/-- With the greatest exponent, half a unit beyond the largest mantissa is where the rounded one
has a digit too many. -/
theorem overflow_le_top_iff {r : Nat} {t : ℚ} (hr : r ≤ 2 ^ 53) (hnear : |(r : ℚ) - t| ≤ 1 / 2)
    (heven : |(r : ℚ) - t| = 1 / 2 → r % 2 = 0) :
    overflow ≤ t * 2 ^ maxExponent ↔ r = 2 ^ 53 := by
  have hp : (0 : ℚ) < 2 ^ 970 := by positivity
  have htop : (2 : ℚ) ^ maxExponent = 2 * 2 ^ 970 := by
    rw [maxExponent,show (971 : Int) = 1 + 970 by rfl,zpow_add₀ (by norm_num),zpow_one]
    rfl
  have hbounds := abs_le.mp hnear
  rw [overflow,htop,← mul_assoc,mul_le_mul_iff_of_pos_right hp]
  constructor
  · intro h
    by_contra hne
    have hlast : (r : ℚ) + 1 ≤ 2 ^ 53 := by exact_mod_cast (by omega : r + 1 ≤ 2 ^ 53)
    have hhalf : (r : ℚ) - t = -(1 / 2) := by linarith
    have hodd := heven (by rw [hhalf,abs_neg,abs_of_nonneg (by norm_num)])
    have hsucc : (r : ℚ) + 1 = 2 ^ 53 := by linarith
    have : r + 1 = 2 ^ 53 := by exact_mod_cast hsucc
    omega
  · rintro rfl
    push_cast at hbounds
    linarith

/-- A mantissa is too large for the format only from half a unit beyond its largest number on. -/
theorem overflow_le_iff (hn : 0 < n) (hd : 0 < d) : overflow ≤ (n : ℚ) / d ↔
    maxExponent < exponentFor n d ∨
      exponentFor n d = maxExponent ∧ mantissaFor n d (exponentFor n d) = 2 ^ 53 := by
  obtain ⟨hup,hlow⟩ := scaled_bounds hn hd
  obtain ⟨hmantissa,-⟩ := mantissaFor_bounds hn hd
  have hnear := abs_mantissaFor_sub_le hd n (exponentFor n d)
  have heven := even_mantissaFor (n := n) (e := exponentFor n d) hd
  have hq : (n : ℚ) / d = n / d / 2 ^ exponentFor n d * 2 ^ exponentFor n d :=
    (div_mul_cancel₀ _ (zpow_ne_zero _ (by norm_num))).symm
  rw [hq]
  generalize exponentFor n d = e at *
  generalize mantissaFor n d e = r at *
  generalize (n : ℚ) / d / 2 ^ e = t at *
  rcases lt_trichotomy e maxExponent with he | rfl | he
  · exact iff_of_false (not_le.mpr (lt_overflow hup he)) (by omega)
  · rw [overflow_le_top_iff hmantissa hnear heven]
    exact ⟨fun h => Or.inr ⟨rfl,h⟩,fun h => (h.resolve_left (lt_irrefl _)).2⟩
  · refine iff_of_true (overflow_le (hlow ?_) he) (Or.inl he)
    rw [maxExponent] at he
    rw [minExponent]
    omega

/-- A quotient is read as the number closest to it. -/
theorem ofRatio_nearest (hd : 0 < d) (negative : Bool) (n : Nat) :
    Nearest (withSign negative (n / d)) (ofRatio negative n d) := by
  rcases Nat.eq_zero_or_pos n with rfl | hn
  · have hzero : withSign negative ((0 : Nat) / d) = 0 := by
      cases negative <;> simp [withSign]
    rw [hzero,ofRatio,if_pos (Or.inl rfl)]
    exact zero_nearest negative
  have hq : (0 : ℚ) < n / d := div_pos (by exact_mod_cast hn) (by exact_mod_cast hd)
  have hsize : |withSign negative ((n : ℚ) / d)| = n / d := by
    rw [abs_withSign,abs_of_pos hq]
  have hsign : negative = decide (withSign negative ((n : ℚ) / d) < 0) := by
    cases negative <;> simp [withSign,hq,hq.le]
  have hover := overflow_le_iff hn hd
  have hclose {m : Nat} {f : Int} := close_of_eq (m := m) (f := f) hn hd negative
  obtain ⟨hmantissa,hlowest⟩ := mantissaFor_bounds hn hd
  have hmin : minExponent ≤ exponentFor n d := by
    rw [exponentFor_eq hn hd]
    exact le_max_left _ _
  rw [ofRatio_eq hn hd]
  generalize exponentFor n d = e at *
  generalize mantissaFor n d e = r at *
  have hfinite (hmax : ¬ (maxExponent < e ∨ e = maxExponent ∧ r = 2 ^ 53)) :
      |withSign negative ((n : ℚ) / d)| < overflow := by
    rw [hsize]
    exact not_le.mp (mt hover.mp hmax)
  rcases eq_or_ne r (2 ^ 53) with rfl | hr
  · rw [settle_top]
    split
    case isTrue hmax =>
      exact .infinite (by rw [hsize,hover]; omega) hsign
    case isFalse hmax =>
      refine .finite ⟨by norm_num,Or.inl le_rfl,by omega,by omega⟩ (hfinite (by omega))
        fun y x hy hx => hclose ?_ (fun _ => by norm_num) hy hx
      rw [zpow_add₀ (by norm_num)]
      norm_num
      ring
  · rw [settle_below hr]
    split
    case isTrue hmax => exact .infinite (by rw [hsize,hover]; omega) hsign
    case isFalse hmax =>
      exact .finite ⟨by omega,hlowest,hmin,by omega⟩ (hfinite (by omega))
        fun y x hy hx => hclose rfl id hy hx

/-- An integer is read as the number closest to it. -/
theorem ofInt_nearest (n : Int) : Nearest n (ofInt n) := by
  have h := ofRatio_nearest Nat.one_pos (decide (n < 0)) n.natAbs
  have hn : withSign (decide (n < 0)) ((n.natAbs : ℚ) / (1 : Nat)) = n := by
    rw [Nat.cast_one,div_one,Nat.cast_natAbs]
    by_cases hneg : n < 0
    · rw [withSign,if_pos (by simpa using hneg),abs_of_neg hneg]
      simp
    · rw [withSign,if_neg (by simpa using hneg),abs_of_nonneg (by omega)]
  rwa [hn] at h

/-- A coefficient with a power of ten is read as the number closest to it. -/
theorem ofScaled_nearest (negative : Bool) (n : Nat) (k : Int) :
    Nearest (withSign negative (n * 10 ^ k)) (ofScaled negative n k) := by
  rcases Nat.eq_zero_or_pos n with rfl | hn
  · have hzero : withSign negative ((0 : Nat) * 10 ^ k) = 0 := by
      cases negative <;> simp [withSign]
    rw [hzero,ofScaled,if_pos rfl]
    exact zero_nearest negative
  obtain ⟨a,b,hb,hab⟩ : ∃ a b : Nat, 0 < b ∧ (n : ℚ) * 10 ^ k = a / b := by
    obtain ⟨j,rfl | rfl⟩ := k.eq_nat_or_neg
    · exact ⟨n * 10 ^ j,1,Nat.one_pos,by simp⟩
    · exact ⟨n,10 ^ j,Nat.pow_pos (by decide),by simp [div_eq_mul_inv]⟩
  rw [ofScaled_eq hn hb hab,hab]
  exact ofRatio_nearest hb negative a

end

section
variable {q : ℚ} {x : Binary64}

theorem Nearest.inFormat (h : Nearest q x) : InFormat x := by
  cases h with
  | finite hfits => exact hfits
  | infinite => trivial

theorem Nearest.isFinite_iff (h : Nearest q x) : x.isFinite = true ↔ |q| < overflow := by
  cases h with
  | finite _ hsize => exact iff_of_true rfl hsize
  | infinite hsize => exact iff_of_false nofun (not_lt.mpr hsize)

theorem Nearest.eq_infinite (h : Nearest q x) (hq : overflow ≤ |q|) :
    x = .infinite (decide (q < 0)) := by
  cases h with
  | finite _ hsize => exact absurd hsize (not_lt.mpr hq)
  | infinite _ hsign => rw [hsign]

theorem size_lt {m : Nat} {e : Int} (hm : m < 2 ^ 53) (he : e ≤ maxExponent) :
    (m : ℚ) * 2 ^ e < 2 ^ (1024 : Int) := by
  have hmq : (m : ℚ) < 2 ^ (53 : Int) := by exact_mod_cast hm
  calc (m : ℚ) * 2 ^ e < 2 ^ (53 : Int) * 2 ^ e :=
        mul_lt_mul_of_pos_right hmq (zpow_pos (by norm_num) e)
    _ ≤ 2 ^ (53 : Int) * 2 ^ maxExponent :=
        mul_le_mul_of_nonneg_left (zpow_le_zpow_right₀ (by norm_num) he) (by norm_num)
    _ = 2 ^ (1024 : Int) := by rw [← zpow_add₀ (by norm_num)]; rfl

theorem abs_value_lt (hx : InFormat x) (hq : x.value? = some q) : |q| < 2 ^ (1024 : Int) := by
  cases x with
  | finite negative m e =>
      cases hq
      rw [abs_withSign,abs_of_nonneg (mul_nonneg (Nat.cast_nonneg m)
        (zpow_nonneg (by norm_num) e))]
      exact size_lt hx.mantissa_lt hx.le_maxExponent
  | _ => cases hq

/-! ## Numbers without a fraction -/

theorem ratio_pos (m : Nat) (e : Int) : 0 < (ratio m e).2 := by
  rw [ratio]
  split
  · exact Nat.one_pos
  · rw [Nat.shiftLeft_eq]
    positivity

theorem ratio_div (m : Nat) (e : Int) :
    ((ratio m e).1 : ℚ) / (ratio m e).2 = m * 2 ^ e := by
  obtain ⟨j,rfl | rfl⟩ := e.eq_nat_or_neg
  · rw [ratio,if_pos (by omega),Nat.shiftLeft_eq]
    simp
  · rcases Nat.eq_zero_or_pos j with rfl | hj
    · simp [ratio]
    · rw [ratio,if_neg (by omega),Nat.shiftLeft_eq]
      simp [div_eq_mul_inv]

theorem isInteger_of_value? {k : Int} (h : x.value? = some (k : ℚ)) : x.isInteger = true := by
  cases x with
  | finite negative m e =>
      have hb := ratio_pos m e
      have hbq : ((ratio m e).2 : ℚ) ≠ 0 := by exact_mod_cast hb.ne'
      have hsize : ((ratio m e).1 : ℚ) / (ratio m e).2 = k.natAbs := by
        have habs := congrArg abs (Option.some.inj h)
        rw [abs_withSign,abs_of_nonneg (mul_nonneg (Nat.cast_nonneg m)
          (zpow_nonneg (by norm_num) e))] at habs
        rw [ratio_div,habs,Nat.cast_natAbs,Int.cast_abs]
      rw [div_eq_iff hbq] at hsize
      have hmul : (ratio m e).1 = k.natAbs * (ratio m e).2 := by exact_mod_cast hsize
      rw [isInteger,beq_iff_eq,hmul,Nat.mul_mod_left]
  | _ => cases h

/-- A number without a fraction is its own floor. -/
theorem value?_of_isInteger (h : x.isInteger = true) : x.value? = some (x.floor : ℚ) := by
  cases x with
  | finite negative m e =>
      have hb := ratio_pos m e
      rw [isInteger,beq_iff_eq] at h
      rw [value?,← ratio_div,floor]
      generalize (ratio m e).1 = a at *
      generalize (ratio m e).2 = b at *
      have hbq : (b : ℚ) ≠ 0 := by exact_mod_cast hb.ne'
      obtain ⟨c,rfl⟩ := Nat.dvd_of_mod_eq_zero h
      have hup : (b * c + (b - 1)) / b = c := by
        rw [Nat.add_comm,Nat.add_mul_div_left _ _ hb,Nat.div_eq_of_lt (by omega),Nat.zero_add]
      have hq : ((b * c : Nat) : ℚ) / b = c := by
        push_cast
        field_simp
      rw [hq,Nat.mul_div_cancel_left c hb,hup]
      cases negative <;> simp [withSign]
  | _ => cases h

/-- The integer that a number is, if it is one. -/
theorem floor_eq_some_iff {k : Int} :
    (if x.isInteger then some x.floor else none) = some k ↔ x.value? = some (k : ℚ) := by
  constructor
  · intro h
    split at h
    · rename_i hi
      cases h
      exact value?_of_isInteger hi
    · cases h
  · intro h
    have hi := isInteger_of_value? h
    have hfloor := (value?_of_isInteger hi).symm.trans h
    rw [if_pos hi,Int.cast_injective (Option.some.inj hfloor)]

end

end Binary64

end Vetting.Number
