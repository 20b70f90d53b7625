import Vetting.CheckDigit.Luhn

/-!
# Errors that the mod 10 check finds

What a digit adds to the sum tells the digit, in the doubled places and in the others, so that
one wrong digit is always found, and the digits before the last one leave one choice for it.
Two digits that have changed places are found unless they are 0 and 9, which add the same doubled
or not. Zeros in front add nothing.
-/
namespace Vetting.CheckDigit
open Text

/-! ## Digits -/

section
variable {c d : Char}

theorem asciiValue_lt (h : isAsciiDigit c = true) : asciiValue c < 10 := by
  rw [isAsciiDigit_iff] at h
  rw [asciiValue]
  omega

theorem asciiValue_inj (hc : isAsciiDigit c = true) (hd : isAsciiDigit d = true) :
    asciiValue c = asciiValue d ↔ c = d := by
  rw [isAsciiDigit_iff] at hc hd
  rw [asciiValue,asciiValue,← Char.toNat_inj]
  omega

theorem asciiValue_digitChar {n : Nat} (hn : n < 10) : asciiValue (digitChar n) = n := by
  rw [asciiValue,toNat_digitChar hn]
  omega

end

/-! ## Weights -/

section
variable {twice : Bool} {d e : Nat}

/-- What a digit adds to the sum. -/
def weighed (twice : Bool) (d : Nat) : Nat := if twice then doubled d else d

theorem doubled_cases (hd : d < 10) :
    d < 5 ∧ doubled d = 2 * d ∨ 5 ≤ d ∧ doubled d = 2 * d - 9 := by
  unfold doubled
  split <;> omega

/-- Doubling, with nine taken off, permutes the digits. -/
theorem weighed_inj (hd : d < 10) (he : e < 10) (h : weighed twice d % 10 = weighed twice e % 10) :
    d = e := by
  cases twice with
  | false =>
      change d % 10 = e % 10 at h
      omega
  | true =>
      change doubled d % 10 = doubled e % 10 at h
      have := doubled_cases hd
      have := doubled_cases he
      omega

/-- Two different digits in neighbouring places add the same in either order only if they are
0 and 9. -/
theorem weighed_swap_iff (twice : Bool) (hd : d < 10) (he : e < 10) (hne : d ≠ e) :
    (weighed twice d + weighed (!twice) e) % 10 = (weighed twice e + weighed (!twice) d) % 10 ↔
      d = 0 ∧ e = 9 ∨ d = 9 ∧ e = 0 := by
  have := doubled_cases hd
  have := doubled_cases he
  cases twice with
  | false =>
      change (d + doubled e) % 10 = (e + doubled d) % 10 ↔ _
      omega
  | true =>
      change (doubled d + e) % 10 = (doubled e + d) % 10 ↔ _
      omega

end

/-! ## Sums -/

section
variable {s pre post : List Char} {c d : Char}

def weightedSum (s : List Char) : Nat := luhnSum false (s.reverse.map asciiValue)

theorem isAsciiDigits_iff :
    isAsciiDigits s = true ↔ s ≠ [] ∧ ∀ c ∈ s, isAsciiDigit c = true := by
  simp [isAsciiDigits]

theorem luhn_iff : luhn s = true ↔
    (s ≠ [] ∧ ∀ c ∈ s, isAsciiDigit c = true) ∧ weightedSum s % 10 = 0 := by
  rw [luhn,Bool.and_eq_true,beq_iff_eq,isAsciiDigits_iff,weightedSum]

/-- What stands at one place of a text adds to the sum by itself. -/
theorem exists_weightedSum_eq (pre post : List Char) (n : Nat) : ∃ twice rest,
    ∀ mid : List Char, mid.length = n → weightedSum (pre ++ mid ++ post) =
      luhnSum twice (mid.reverse.map asciiValue) + rest := by
  let twice := if post.length % 2 = 0 then false else !false
  refine ⟨twice,luhnSum false (post.reverse.map asciiValue) +
    luhnSum (if n % 2 = 0 then twice else !twice) (pre.reverse.map asciiValue),fun mid hmid => ?_⟩
  rw [weightedSum,List.reverse_append,List.reverse_append,List.map_append,List.map_append,
    luhnSum_append,luhnSum_append,List.length_map,List.length_map,List.length_reverse,
    List.length_reverse,hmid,Nat.add_left_comm]

/-- Texts that differ in one place only are both checked by what stands there. -/
theorem exists_luhn_iff (pre post : List Char) {n : Nat} (hn : 0 < n) : ∃ twice rest,
    ∀ mid : List Char, mid.length = n → (luhn (pre ++ mid ++ post) = true ↔
      ((∀ c ∈ pre, isAsciiDigit c = true) ∧ (∀ c ∈ mid, isAsciiDigit c = true) ∧
        ∀ c ∈ post, isAsciiDigit c = true) ∧
        (luhnSum twice (mid.reverse.map asciiValue) + rest) % 10 = 0) := by
  obtain ⟨twice,rest,hsum⟩ := exists_weightedSum_eq pre post n
  refine ⟨twice,rest,fun mid hmid => ?_⟩
  have hne : pre ++ mid ++ post ≠ [] := by
    intro h
    have hlen := congrArg List.length h
    simp only [List.length_append,List.length_nil] at hlen
    omega
  rw [luhn_iff,hsum mid hmid,and_iff_right hne]
  simp only [List.forall_mem_append,and_assoc]

theorem luhn_replace (h : luhn (pre ++ c :: post) = true) (hne : d ≠ c) :
    luhn (pre ++ d :: post) = false := by
  obtain ⟨twice,rest,hluhn⟩ := exists_luhn_iff pre post (n := 1) (by decide)
  have hc := hluhn [c] rfl
  have hd := hluhn [d] rfl
  simp only [List.append_assoc,List.singleton_append] at hc hd
  obtain ⟨⟨-,hdigit,-⟩,hsum⟩ := hc.mp h
  rw [← Bool.not_eq_true,hd]
  rintro ⟨⟨-,hdigit',-⟩,hsum'⟩
  have hvalue := asciiValue_lt (hdigit c (List.mem_singleton_self c))
  have hvalue' := asciiValue_lt (hdigit' d (List.mem_singleton_self d))
  have hsame : weighed twice (asciiValue d) % 10 = weighed twice (asciiValue c) % 10 := by
    have hsum : (weighed twice (asciiValue c) + rest) % 10 = 0 := hsum
    have hsum' : (weighed twice (asciiValue d) + rest) % 10 = 0 := hsum'
    omega
  exact hne ((asciiValue_inj (hdigit' d (List.mem_singleton_self d))
    (hdigit c (List.mem_singleton_self c))).mp (weighed_inj hvalue' hvalue hsame))

theorem luhn_swap_iff (h : luhn (pre ++ c :: d :: post) = true) (hne : c ≠ d) :
    luhn (pre ++ d :: c :: post) = true ↔ c = '0' ∧ d = '9' ∨ c = '9' ∧ d = '0' := by
  obtain ⟨twice,rest,hluhn⟩ := exists_luhn_iff pre post (n := 2) (by decide)
  have hcd := hluhn [c,d] rfl
  have hdc := hluhn [d,c] rfl
  simp only [List.append_assoc,List.cons_append,List.nil_append] at hcd hdc
  obtain ⟨⟨hpre,hdigits,hpost⟩,hsum⟩ := hcd.mp h
  have hc : isAsciiDigit c = true := hdigits c (by simp)
  have hd : isAsciiDigit d = true := hdigits d (by simp)
  have hvalue : asciiValue c ≠ asciiValue d := mt (asciiValue_inj hc hd).mp hne
  have hpair : (c = '0' ∧ d = '9' ∨ c = '9' ∧ d = '0') ↔
      asciiValue c = 0 ∧ asciiValue d = 9 ∨ asciiValue c = 9 ∧ asciiValue d = 0 := by
    have hzero : isAsciiDigit '0' = true := by decide
    have hnine : isAsciiDigit '9' = true := by decide
    rw [← asciiValue_inj hc hzero,← asciiValue_inj hd hnine,← asciiValue_inj hc hnine,
      ← asciiValue_inj hd hzero]
    exact Iff.rfl
  rw [hpair,← weighed_swap_iff (!twice) (asciiValue_lt hc) (asciiValue_lt hd) hvalue,hdc,
    and_iff_right ⟨hpre,by simp [hc,hd],hpost⟩]
  have hpairs (a b : Nat) : luhnSum twice [a,b] = weighed (!twice) b + weighed twice a :=
    Nat.add_comm _ _
  have hsum : (luhnSum twice [asciiValue d,asciiValue c] + rest) % 10 = 0 := hsum
  change (luhnSum twice [asciiValue c,asciiValue d] + rest) % 10 = 0 ↔ _
  rw [hpairs] at hsum ⊢
  rw [Bool.not_not]
  omega

/-- The digits before the last one leave one choice for it. -/
theorem exists_luhn_concat {body : List Char} (h : isAsciiDigits body = true) :
    ∃ c, isAsciiDigit c = true ∧ ∀ d, luhn (body ++ [d]) = true ↔ d = c := by
  rw [isAsciiDigits_iff] at h
  have hsum (d : Char) : weightedSum (body ++ [d]) =
      asciiValue d + luhnSum true (body.reverse.map asciiValue) := by
    rw [weightedSum,List.reverse_append]
    rfl
  generalize luhnSum true (body.reverse.map asciiValue) = rest at hsum
  have hlt : (10 - rest % 10) % 10 < 10 := Nat.mod_lt _ (by decide)
  refine ⟨digitChar ((10 - rest % 10) % 10),isAsciiDigit_digitChar hlt,fun d => ?_⟩
  rw [luhn_iff,hsum]
  constructor
  · rintro ⟨⟨-,hdigits⟩,hmod⟩
    have hd := hdigits d (by simp)
    rw [← asciiValue_inj hd (isAsciiDigit_digitChar hlt),asciiValue_digitChar hlt]
    have := asciiValue_lt hd
    omega
  · rintro rfl
    rw [asciiValue_digitChar hlt]
    refine ⟨⟨by simp,List.forall_mem_append.mpr ⟨h.2,?_⟩⟩,by omega⟩
    exact List.forall_mem_singleton.mpr (isAsciiDigit_digitChar hlt)

theorem luhnSum_replicate_zero (twice : Bool) (n : Nat) :
    luhnSum twice (List.replicate n 0) = 0 := by
  induction n generalizing twice with
  | zero => rfl
  | succ n ih =>
      rw [List.replicate_succ,luhnSum,ih]
      cases twice <;> rfl

theorem luhn_zeros_append (hs : s ≠ []) (n : Nat) :
    luhn (List.replicate n '0' ++ s) = luhn s := by
  have hsum : weightedSum (List.replicate n '0' ++ s) = weightedSum s := by
    rw [weightedSum,List.reverse_append,List.map_append,luhnSum_append,List.reverse_replicate,
      List.map_replicate]
    exact congrArg (_ + ·) (luhnSum_replicate_zero _ n)
  have hzeros : ∀ c ∈ List.replicate n '0', isAsciiDigit c = true := by
    intro c hc
    rw [List.eq_of_mem_replicate hc]
    decide
  rw [Bool.eq_iff_iff,luhn_iff,luhn_iff,hsum,List.forall_mem_append,and_iff_right hzeros]
  simp [hs]

end

/-- What the check finds, in a text of digits that it passes: every digit that is replaced, and
two digits that change places unless they are 0 and 9. One digit completes a text of digits, and
zeros in front do not matter. -/
theorem luhn_detects_errors :
    (∀ (pre post : List Char) (c d : Char), luhn (pre ++ c :: post) = true → d ≠ c →
      luhn (pre ++ d :: post) = false) ∧
    (∀ (pre post : List Char) (c d : Char), luhn (pre ++ c :: d :: post) = true → c ≠ d →
      (luhn (pre ++ d :: c :: post) = true ↔ c = '0' ∧ d = '9' ∨ c = '9' ∧ d = '0')) ∧
    (∀ body : List Char, isAsciiDigits body = true →
      ∃ c, isAsciiDigit c = true ∧ ∀ d, luhn (body ++ [d]) = true ↔ d = c) ∧
    ∀ (n : Nat) (s : List Char), s ≠ [] → luhn (List.replicate n '0' ++ s) = luhn s :=
  ⟨fun _ _ _ _ => luhn_replace,fun _ _ _ _ => luhn_swap_iff,fun _ => exists_luhn_concat,
    fun n _ hs => luhn_zeros_append hs n⟩

/-- A wrong digit and two changes of places in a card number of eight digits. -/
theorem luhn_detects_errors_card :
    luhn ['4','0','9','1','8','2','6','0'] = true ∧
      luhn ['4','0','9','1','8','2','6','1'] = false ∧
      luhn ['4','0','9','8','1','2','6','0'] = false ∧
      luhn ['4','9','0','1','8','2','6','0'] = true ∧
      (∃ c, isAsciiDigit c = true ∧
        ∀ d, luhn (['4','0','9','1','8','2','6'] ++ [d]) = true ↔ d = c) ∧
      luhn (List.replicate 4 '0' ++ ['4','0','9','1','8','2','6','0']) = true := by
  obtain ⟨hreplace,hswap,hlast,hzeros⟩ := luhn_detects_errors
  have h : luhn ['4','0','9','1','8','2','6','0'] = true := by decide
  have hapart := hswap ['4','0','9'] ['2','6','0'] '1' '8' h (by decide)
  have hpair := hswap ['4'] ['1','8','2','6','0'] '0' '9' h (by decide)
  exact ⟨h,hreplace ['4','0','9','1','8','2','6'] [] '0' '1' h (by decide),
    Bool.eq_false_iff.mpr (mt hapart.mp (by decide)),hpair.mpr (by decide),
    hlast ['4','0','9','1','8','2','6'] (by decide),(hzeros 4 _ (by decide)).trans h⟩

end Vetting.CheckDigit
