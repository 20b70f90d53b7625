import Mathlib.Algebra.BigOperators.Intervals
import Mathlib.Algebra.BigOperators.Ring.Finset
import Vetting.CheckDigit.Taxpayer
import Vetting.Proofs.CheckDigit.Luhn
import Vetting.Proofs.Place.Spelling

/-!
# Check digits as sums modulo eleven

Ten times a weight is the number that the weight lacks to eleven, so that the check digits of
persons are sums of digits under the weights that rise with the place, modulo eleven. Those of
companies are taken under the weights 2 to 9, over and over from the right, and whatever the
length of the text, weights that begin at the right number come to these. A text is a number of
either kind if its digits, filled up with zeros, are not all the same and end in the check
digits of those before.
-/
namespace Vetting.CheckDigit
open Text

/-! ## Digits of a text -/

/-- The digit at a place of a text, zero where there is none. -/
def digitOf (s : List Char) (i : Nat) : Nat := (s[i]?.bind digitValue?).getD 0

section
variable {s t : List Char} {c : Char} {i d : Nat}

theorem digitValue?_of_isAsciiDigit (h : isAsciiDigit c = true) :
    digitValue? c = some (asciiValue c) := by
  rw [isAsciiDigit_iff] at h
  refine digitValue?_of_isDigit ?_
  rw [Char.isDigit,Bool.and_eq_true,decide_eq_true_eq,decide_eq_true_eq]
  exact h

theorem isDecimal_of_isAsciiDigit (h : isAsciiDigit c = true) : isDecimal c = true := by
  rw [isDecimal,digitValue?_of_isAsciiDigit h]
  rfl

theorem digitChar_eq_iff (hc : isAsciiDigit c = true) (hd : d < 10) :
    digitChar d = c ↔ asciiValue c = d := by
  rw [← asciiValue_inj (isAsciiDigit_digitChar hd) hc,asciiValue_digitChar hd,eq_comm]

theorem digitOf_cons_zero (c : Char) (s : List Char) :
    digitOf (c :: s) 0 = (digitValue? c).getD 0 := rfl

theorem digitOf_cons_succ (c : Char) (s : List Char) (i : Nat) :
    digitOf (c :: s) (i + 1) = digitOf s i := rfl

theorem digitOf_append_cons (s t : List Char) (c : Char) :
    digitOf (s ++ c :: t) s.length = (digitValue? c).getD 0 := by
  rw [digitOf,List.getElem?_append_right le_rfl,Nat.sub_self]
  rfl

theorem digitAt_eq (h : isDecimal c = true) : digitAt c = .ok (digitOf (c :: s) 0) := by
  obtain ⟨d,hd⟩ := Option.isSome_iff_exists.mp h
  rw [digitOf_cons_zero,digitAt,hd]
  rfl

end

/-! ## Weighted sums -/

section
variable {s : List Char} {count : Nat}

theorem fallingSum_eq (hs : ∀ c ∈ s, isDecimal c = true) (hcount : count ≤ s.length) :
    fallingSum count s = .ok (∑ i ∈ Finset.range count, (count + 1 - i) * digitOf s i) := by
  induction count generalizing s with
  | zero => rfl
  | succ count ih =>
      cases s with
      | nil => cases hcount
      | cons c s =>
          obtain ⟨hc,hs⟩ := List.forall_mem_cons.mp hs
          have hsum : ∑ i ∈ Finset.range (count + 1), (count + 1 + 1 - i) * digitOf (c :: s) i =
              digitOf (c :: s) 0 * (count + 2) +
                ∑ i ∈ Finset.range count, (count + 1 - i) * digitOf s i := by
            rw [Finset.sum_range_succ',Nat.add_comm,Nat.mul_comm]
            simp only [digitOf_cons_succ,Nat.sub_zero,Nat.add_sub_add_right]
          rw [fallingSum,digitAt_eq (s := s) hc,ih hs (Nat.le_of_succ_le_succ hcount),hsum]
          rfl

/-- Ten times a weight and the weight that rises with the place come to the same modulo eleven. -/
theorem elevenDigit_falling (d : Nat → Nat) (hcount : count ≤ 10) :
    elevenDigit (∑ i ∈ Finset.range count, (count + 1 - i) * d i) =
      (∑ i ∈ Finset.range count, (i + (10 - count)) * d i) % 11 % 10 := by
  have hsum : 10 * ∑ i ∈ Finset.range count, (count + 1 - i) * d i =
      ∑ i ∈ Finset.range count, (i + (10 - count)) * d i +
        11 * ∑ i ∈ Finset.range count, (count - i) * d i := by
    rw [Finset.mul_sum,Finset.mul_sum,← Finset.sum_add_distrib]
    refine Finset.sum_congr rfl fun i hi => ?_
    have hi := Finset.mem_range.mp hi
    have hweight : 10 * (count + 1 - i) = i + (10 - count) + 11 * (count - i) := by omega
    rw [← Nat.mul_assoc,hweight,Nat.add_mul,Nat.mul_assoc]
  rw [elevenDigit,hsum,Nat.add_mul_mod_self_left]

/-- The sum of the digits under the weights 2 to 9, from the right. -/
def roundSum (s : List Char) : Nat :=
  ∑ k ∈ Finset.range s.length, (2 + k % 8) * digitOf s (s.length - 1 - k)

theorem roundSum_cons (c : Char) (s : List Char) :
    roundSum (c :: s) = (2 + s.length % 8) * digitOf (c :: s) 0 + roundSum s := by
  rw [roundSum,List.length_cons,Finset.sum_range_succ,Nat.add_comm,Nat.add_sub_cancel,
    Nat.sub_self,roundSum]
  refine congrArg (_ + ·) (Finset.sum_congr rfl fun k hk => ?_)
  have hk := Finset.mem_range.mp hk
  rw [show s.length - k = s.length - 1 - k + 1 by omega,digitOf_cons_succ]

/-- Weights that count down to two and begin at the right number are those from the right. -/
theorem cyclingSum_eq (hs : ∀ c ∈ s, isDecimal c = true) :
    cyclingSum (2 + (s.length - 1) % 8) s = .ok (roundSum s) := by
  induction s with
  | nil => rfl
  | cons c s ih =>
      obtain ⟨hc,hs⟩ := List.forall_mem_cons.mp hs
      have hnext : s = [] ∨ (if 2 + s.length % 8 = 2 then 9 else 2 + s.length % 8 - 1) =
          2 + (s.length - 1) % 8 := by
        rw [← List.length_eq_zero_iff]
        split <;> omega
      rw [cyclingSum,digitAt_eq (s := s) hc,roundSum_cons,List.length_cons,Nat.add_sub_cancel,
        Nat.mul_comm]
      rcases hnext with rfl | hnext
      · rfl
      · rw [hnext,ih hs]
        rfl

end

/-! ## Check digits -/

/-- The first check digit of a person's number, from the nine digits before it. -/
def personFirst (s : List Char) : Nat :=
  (∑ i ∈ Finset.range 9, (i + 1) * digitOf s i) % 11 % 10

/-- The second one, from the ten digits before it. -/
def personSecond (s : List Char) : Nat :=
  (∑ i ∈ Finset.range 10, i * digitOf s i) % 11 % 10

/-- Either check digit of a company's number, from the digits before it. -/
def companyCheck (s : List Char) : Nat := 10 * roundSum s % 11 % 10

section
variable {s base : List Char} {d : Nat}

theorem isDecimal_concat (hs : ∀ c ∈ s, isDecimal c = true) (hd : d < 10) :
    ∀ c ∈ s ++ [digitChar d], isDecimal c = true :=
  List.forall_mem_append.mpr ⟨hs,List.forall_mem_singleton.mpr
    (isDecimal_of_isAsciiDigit (isAsciiDigit_digitChar hd))⟩

theorem personDigits_eq (hbase : ∀ c ∈ base, isDecimal c = true) (hlen : base.length = 9) :
    personDigits base = .ok [digitChar (personFirst base),
      digitChar (personSecond (base ++ [digitChar (personFirst base)]))] := by
  have hfirst : elevenDigit (∑ i ∈ Finset.range 9, (9 + 1 - i) * digitOf base i) =
      personFirst base := elevenDigit_falling (digitOf base) (by decide)
  have honce := isDecimal_concat hbase (d := personFirst base) (Nat.mod_lt _ (by decide))
  have hlen' : (base ++ [digitChar (personFirst base)]).length = 10 := by
    rw [List.length_append,hlen]
    rfl
  generalize hone : base ++ [digitChar (personFirst base)] = once at *
  have hsecond : elevenDigit (∑ i ∈ Finset.range 10, (10 + 1 - i) * digitOf once i) =
      personSecond once := elevenDigit_falling (digitOf once) (by decide)
  rw [personDigits,fallingSum_eq hbase hlen.ge]
  dsimp only [Bind.bind,Except.bind]
  rw [hfirst,hone,fallingSum_eq honce hlen'.ge]
  dsimp only
  rw [hsecond,← hone,List.append_assoc,List.drop_left' hlen]
  rfl

/-- What a remainder lacks to eleven is the remainder of ten times as much. -/
theorem companyDigit_eq (hs : ∀ c ∈ s, isDecimal c = true) :
    companyDigit s (2 + (s.length - 1) % 8) = .ok (companyCheck s) := by
  have hlack : ∀ r < 11, 10 * r % 11 % 10 = if r < 2 then 0 else 11 - r := by decide
  rw [companyDigit,cyclingSum_eq hs,companyCheck,← Nat.mul_mod_mod,
    hlack _ (Nat.mod_lt _ (by decide))]
  rfl

theorem toList_repr (hd : d < 10) : (Nat.repr d).toList = [digitChar d] := by
  revert d
  decide

theorem companyDigits_eq (hbase : ∀ c ∈ base, isDecimal c = true) (hlen : base.length = 12) :
    companyDigits base = .ok [digitChar (companyCheck base),
      digitChar (companyCheck (base ++ [digitChar (companyCheck base)]))] := by
  have hlt (s : List Char) : companyCheck s < 10 := Nat.mod_lt _ (by decide)
  have hlen' : (base ++ [digitChar (companyCheck base)]).length = 13 := by
    rw [List.length_append,hlen]
    rfl
  have hfirst : companyDigit base 5 = .ok (companyCheck base) := by
    have h := companyDigit_eq hbase
    rwa [hlen] at h
  have hsecond : companyDigit (base ++ [digitChar (companyCheck base)]) 6 =
      .ok (companyCheck (base ++ [digitChar (companyCheck base)])) := by
    have h := companyDigit_eq (isDecimal_concat hbase (hlt base))
    rwa [hlen'] at h
  rw [companyDigits,List.take_of_length_le hlen.le]
  dsimp only [Bind.bind,Except.bind]
  rw [hfirst]
  dsimp only
  rw [toList_repr (hlt base),hsecond]
  dsimp only
  rw [toList_repr (hlt _)]
  rfl

end

/-! ## Numbers -/

/-- The digits of a text, filled up with zeros. -/
def padded (size : Nat) (s : List Char) : List Char :=
  List.replicate (size - (s.filter isAsciiDigit).length) '0' ++ s.filter isAsciiDigit

section
variable {size body : Nat} {s r : List Char}

theorem isAsciiDigit_padded (size : Nat) (s : List Char) :
    ∀ c ∈ padded size s, isAsciiDigit c = true := by
  refine List.forall_mem_append.mpr ⟨fun c hc => ?_,fun c hc => (List.mem_filter.mp hc).2⟩
  rw [List.eq_of_mem_replicate hc]
  decide

theorem length_padded (h : (s.filter isAsciiDigit).length ≤ size) :
    (padded size s).length = size := by
  rw [padded,List.length_append,List.length_replicate,Nat.sub_add_cancel h]

/-- Not all characters of a text are the first one exactly if two of them are different. -/
theorem any_ne_head_iff (r : List Char) :
    r.any (· != r.headD '0') = true ↔ ∃ c ∈ r, ∃ d ∈ r, c ≠ d := by
  rw [List.any_eq_true]
  simp only [bne_iff_ne]
  cases r with
  | nil => simp
  | cons a r =>
      constructor
      · rintro ⟨c,hc,hne⟩
        exact ⟨c,hc,a,List.mem_cons_self,hne⟩
      · rintro ⟨c,hc,d,hd,hne⟩
        by_cases h : c = a
        · exact ⟨d,hd,fun h' => hne (h.trans h'.symm)⟩
        · exact ⟨c,hc,h⟩

theorem paddedDigits?_eq_some_iff : paddedDigits? size s = some r ↔
    r = padded size s ∧ (s.filter isAsciiDigit).length ≤ size ∧ ∃ c ∈ r, ∃ d ∈ r, c ≠ d := by
  have hlen : (padded size s).length = size ↔ (s.filter isAsciiDigit).length ≤ size := by
    rw [padded,List.length_append,List.length_replicate]
    omega
  have heq : paddedDigits? size s = if (padded size s).length = size ∧
      (padded size s).any (· != (padded size s).headD '0') = true then some (padded size s)
      else none := rfl
  rw [heq,Option.ite_none_right_eq_some,hlen,any_ne_head_iff,Option.some.injEq,eq_comm,and_comm]
  exact and_congr_right fun h => h ▸ Iff.rfl

/-- The two characters at the end of a text, and those before. -/
theorem exists_append_pair (h : r.length = body + 2) :
    ∃ base x y, base.length = body ∧ r = base ++ [x,y] := by
  obtain ⟨x,y,hxy⟩ := List.length_eq_two.mp
    (show (r.drop body).length = 2 by rw [List.length_drop,h]; omega)
  refine ⟨r.take body,x,y,by rw [List.length_take,h]; omega,?_⟩
  rw [← hxy,List.take_append_drop]

theorem take_append_pair (base : List Char) (x y : Char) :
    (base ++ [x,y]).take (base.length + 1) = base ++ [x] := by
  have h : (base ++ [x] ++ [y]).take (base ++ [x]).length = base ++ [x] := List.take_left
  rwa [List.length_append,List.append_assoc] at h

theorem digitOf_append_pair {x y : Char} (hx : isAsciiDigit x = true) (hy : isAsciiDigit y = true)
    (base : List Char) : digitOf (base ++ [x,y]) base.length = asciiValue x ∧
      digitOf (base ++ [x,y]) (base.length + 1) = asciiValue y := by
  have hfirst := digitOf_append_cons base [y] x
  have hsecond := digitOf_append_cons (base ++ [x]) [] y
  rw [digitValue?_of_isAsciiDigit hx] at hfirst
  rw [digitValue?_of_isAsciiDigit hy,List.length_append,List.append_assoc] at hsecond
  exact ⟨hfirst,hsecond⟩

/-- A text is a number if its digits, filled up, are different ones and end in the two check
digits of those before. -/
theorem verified?_eq_some_iff {checks : List Char → Except Fault (List Char)}
    {first second : List Char → Nat}
    (hchecks : ∀ base, (∀ c ∈ base, isDecimal c = true) → base.length = body → checks base =
      .ok [digitChar (first base),digitChar (second (base ++ [digitChar (first base)]))])
    (hfirst : ∀ s, first s < 10) (hsecond : ∀ s, second s < 10) :
    verified? (body + 2) body checks s = some r ↔
      (r = padded (body + 2) s ∧ (s.filter isAsciiDigit).length ≤ body + 2 ∧
        ∃ c ∈ r, ∃ d ∈ r, c ≠ d) ∧
      digitOf r body = first (r.take body) ∧ digitOf r (body + 1) = second (r.take (body + 1)) := by
  rw [← paddedDigits?_eq_some_iff,verified?]
  cases hraw : paddedDigits? (body + 2) s with
  | none => exact iff_of_false nofun (fun h => nomatch h.1)
  | some raw =>
      obtain ⟨hpadded,hsize,-⟩ := paddedDigits?_eq_some_iff.mp hraw
      have hdigits := isAsciiDigit_padded (body + 2) s
      have hlen := length_padded hsize
      rw [← hpadded] at hdigits hlen
      -- the digits before the check digits, and these
      obtain ⟨base,x,y,rfl,rfl⟩ := exists_append_pair hlen
      rw [List.forall_mem_append] at hdigits
      have hx := hdigits.2 x (by simp)
      have hy := hdigits.2 y (by simp)
      obtain ⟨hpenultimate,hlast⟩ := digitOf_append_pair hx hy base
      have hchecks := hchecks base (fun c hc => isDecimal_of_isAsciiDigit (hdigits.1 c hc)) rfl
      dsimp only
      rw [List.take_left,List.drop_left,hchecks]
      dsimp only
      rw [Option.ite_none_right_eq_some,and_comm]
      refine and_congr_right fun h => ?_
      cases h
      rw [hpenultimate,hlast,List.take_left,take_append_pair,List.cons.injEq,List.cons.injEq,
        and_iff_left rfl,digitChar_eq_iff hx (hfirst base),digitChar_eq_iff hy (hsecond _)]
      refine and_congr_right fun h => ?_
      rw [(digitChar_eq_iff hx (hfirst base)).mpr h]

end

/-- The check digits of a person's number are sums modulo eleven, and so are those of a company's
number, under weights that do not depend on its length. A text is a number exactly if its digits,
filled up with zeros, are different ones and end in the check digits of those before; and the
number is these digits. -/
theorem taxpayer_digits :
    (∀ base : List Char, (∀ c ∈ base, isDecimal c = true) → base.length = 9 → personDigits base =
      .ok [digitChar (personFirst base),
        digitChar (personSecond (base ++ [digitChar (personFirst base)]))]) ∧
    (∀ s : List Char, (∀ c ∈ s, isDecimal c = true) →
      cyclingSum (2 + (s.length - 1) % 8) s = .ok (roundSum s) ∧
        companyDigit s (2 + (s.length - 1) % 8) = .ok (companyCheck s)) ∧
    (∀ base : List Char, (∀ c ∈ base, isDecimal c = true) → base.length = 12 →
      companyDigits base = .ok [digitChar (companyCheck base),
        digitChar (companyCheck (base ++ [digitChar (companyCheck base)]))]) ∧
    (∀ s r : List Char, person? s = some r ↔
      (r = padded 11 s ∧ (s.filter isAsciiDigit).length ≤ 11 ∧ ∃ c ∈ r, ∃ d ∈ r, c ≠ d) ∧
        digitOf r 9 = personFirst (r.take 9) ∧ digitOf r 10 = personSecond (r.take 10)) ∧
    ∀ s r : List Char, company? s = some r ↔
      (r = padded 14 s ∧ (s.filter isAsciiDigit).length ≤ 14 ∧ ∃ c ∈ r, ∃ d ∈ r, c ≠ d) ∧
        digitOf r 12 = companyCheck (r.take 12) ∧ digitOf r 13 = companyCheck (r.take 13) := by
  have hlt (n : Nat) : n % 10 < 10 := Nat.mod_lt n (by decide)
  exact ⟨fun _ => personDigits_eq,fun _ hs => ⟨cyclingSum_eq hs,companyDigit_eq hs⟩,
    fun _ => companyDigits_eq,
    fun _ _ => verified?_eq_some_iff (fun _ => personDigits_eq) (fun _ => hlt _) (fun _ => hlt _),
    fun _ _ => verified?_eq_some_iff (fun _ => companyDigits_eq) (fun _ => hlt _) (fun _ => hlt _)⟩

/-- A person's number, its two check digits, and a company's number with zeros in front. -/
theorem taxpayer_digits_valid :
    personDigits "111444777".toList = .ok ['3','5'] ∧
      companyDigit "112223330001".toList 5 = .ok 8 ∧
      companyDigits "112223330001".toList = .ok ['8','1'] ∧
      person? "111.444.777-35".toList = some "11144477735".toList ∧
      company? "191".toList = some "00000000000191".toList := by
  obtain ⟨hperson,hcycle,hcompany,hpersons,hcompanies⟩ := taxpayer_digits
  have hbase : ∀ c ∈ "111444777".toList, isDecimal c = true :=
    List.all_eq_true.mp (by decide +kernel)
  have hroot : ∀ c ∈ "112223330001".toList, isDecimal c = true :=
    List.all_eq_true.mp (by decide +kernel)
  refine ⟨(hperson _ hbase (by decide +kernel)).trans (by decide +kernel),
    (hcycle _ hroot).2.trans (by decide +kernel),
    (hcompany _ hroot (by decide +kernel)).trans (by decide +kernel),
    (hpersons _ _).mpr ⟨⟨by decide +kernel,by decide +kernel,?_⟩,by decide +kernel⟩,
    (hcompanies _ _).mpr ⟨⟨by decide +kernel,by decide +kernel,?_⟩,by decide +kernel⟩⟩
  all_goals exact (any_ne_head_iff _).mp (by decide +kernel)

end Vetting.CheckDigit
