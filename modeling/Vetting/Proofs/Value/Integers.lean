import Vetting.Proofs.Place.Spelling
import Vetting.Proofs.Value.Loose

/-!
# Integers in loose comparisons

An integer can be given as itself or as text of its digits, with a sign before and blanks
around. Loose comparison reads the same integer from all of these, with all of its digits, so
that integers compare as integers however large they are.
-/
namespace Vetting
open Number Text

/-! ## Reading an integer -/

theorem isBlank_of_digitZeros :
    ∀ z ∈ digitZeros, ∀ k < 10, isBlank (Char.ofNat (z + k)) = false := by
  decide +kernel

theorem isBlank_of_isDecimal {c : Char} (h : isDecimal c = true) : isBlank c = false := by
  obtain ⟨d,hd⟩ := Option.isSome_iff_exists.mp h
  obtain ⟨z,hz,-⟩ := Option.map_eq_some_iff.mp hd
  have hbounds := List.find?_some hz
  simp only [Bool.and_eq_true,decide_eq_true_eq] at hbounds
  have hblank := isBlank_of_digitZeros z (List.mem_of_find?_eq_some hz) (c.toNat - z) (by omega)
  rwa [Nat.add_sub_cancel' hbounds.1,Char.ofNat_toNat] at hblank

theorem length_digitValues {s : List Char} (h : ∀ c ∈ s, isDecimal c = true) :
    (digitValues s).length = s.length := by
  rw [digitValues,List.filterMap_length_eq_length]
  exact h

namespace Number

/-- Signs that can stand before a number, and whether they make it negative. -/
inductive Sign : List Char → Bool → Prop
  | none : Sign [] false
  | plus : Sign ['+'] false
  | minus : Sign ['-'] true

section
variable {before sign digits after : List Char} {negative : Bool}

theorem takeSign_append (hs : Sign sign negative) (hne : digits ≠ [])
    (hd : ∀ c ∈ digits, isDecimal c = true) :
    takeSign (sign ++ (digits ++ after)) = (negative,digits ++ after) := by
  cases hs with
  | plus => rfl
  | minus => rfl
  | none =>
      cases digits with
      | nil => exact absurd rfl hne
      | cons c rest =>
          have hc := hd c List.mem_cons_self
          have hminus : c ≠ '-' := by
            rintro rfl
            revert hc
            decide
          have hplus : c ≠ '+' := by
            rintro rfl
            revert hc
            decide
          simp [takeSign,hminus,hplus]

theorem takeDigits_append (hd : ∀ c ∈ digits, isDecimal c = true)
    (ha : ∀ c ∈ after, isBlank c = true) :
    takeDigits (digits ++ after) = (digitValues digits,after) := by
  have hstop : ∀ c ∈ after.head?, isDecimal c = false := by
    intro c hc
    rw [Bool.eq_false_iff]
    intro hdecimal
    have hblank := ha c (List.mem_of_mem_head? hc)
    rw [isBlank_of_isDecimal hdecimal] at hblank
    cases hblank
  obtain ⟨htake,hdrop⟩ := Path.run_of_all hd hstop
  rw [takeDigits,htake,hdrop]

theorem takeSignificand_append (hne : digits ≠ []) (hd : ∀ c ∈ digits, isDecimal c = true)
    (ha : ∀ c ∈ after, isBlank c = true) :
    takeSignificand (digits ++ after) = some ((digitValues digits,none),after) := by
  have hlen := length_digitValues hd
  rw [takeSignificand,takeDigits_append hd ha]
  cases hds : digitValues digits with
  | nil =>
      rw [hds] at hlen
      exact absurd (List.eq_nil_of_length_eq_zero hlen.symm) hne
  | cons d ds =>
      cases after with
      | nil => rfl
      | cons c rest =>
          have hpoint : c ≠ '.' := by
            rintro rfl
            exact absurd (ha '.' List.mem_cons_self) (by decide)
          simp [hpoint]

theorem takeExponent_of_blank (ha : ∀ c ∈ after, isBlank c = true) :
    takeExponent after = (none,after) := by
  cases after with
  | nil => rfl
  | cons c rest =>
      have hmark : ¬ (c = 'e' ∨ c = 'E') := by
        rintro (rfl | rfl)
        · exact absurd (ha 'e' List.mem_cons_self) (by decide)
        · exact absurd (ha 'E' List.mem_cons_self) (by decide)
      simp [takeExponent,hmark]

/-- Blanks go before the sign and after the digits, and are passed over. -/
theorem trimStart_append (hb : ∀ c ∈ before, isBlank c = true) (hs : Sign sign negative)
    (hne : digits ≠ []) (hd : ∀ c ∈ digits, isDecimal c = true) :
    trimStart (before ++ (sign ++ (digits ++ after))) = sign ++ (digits ++ after) := by
  refine (Path.run_of_all hb ?_).2
  have hplus : isBlank '+' = false := by decide
  have hminus : isBlank '-' = false := by decide
  cases hs with
  | plus => simp [hplus]
  | minus => simp [hminus]
  | none =>
      cases digits with
      | nil => exact absurd rfl hne
      | cons d rest => simpa using isBlank_of_isDecimal (hd d List.mem_cons_self)

theorem ofText?_integer (hb : ∀ c ∈ before, isBlank c = true) (hs : Sign sign negative)
    (hne : digits ≠ []) (hd : ∀ c ∈ digits, isDecimal c = true)
    (ha : ∀ c ∈ after, isBlank c = true) :
    Numeral.ofText? (before ++ (sign ++ (digits ++ after))) =
      some ⟨negative,digitValues digits,none,none⟩ := by
  rw [Numeral.ofText?,trimStart_append hb hs hne hd,Numeral.scan]
  simp only [takeSign_append hs hne hd,takeSignificand_append hne hd ha,takeExponent_of_blank ha]
  rw [if_pos (List.all_eq_true.mpr ha)]

end

end Number

namespace Value

/-- The values that stand for an integer: the integer, and text of its digits, as many as are
read at most, with or without a sign before them and blanks around. -/
inductive Denotes : Value → Int → Prop
  | int (n : Int) : Denotes (.int n) n
  | text {before sign digits after : List Char} {negative : Bool}
      (hb : ∀ c ∈ before, isBlank c = true) (hs : Sign sign negative) (hne : digits ≠ [])
      (hd : ∀ c ∈ digits, isDecimal c = true) (hlen : digits.length ≤ digitLimit)
      (ha : ∀ c ∈ after, isBlank c = true) :
      Denotes (.text (String.ofList (before ++ (sign ++ (digits ++ after)))))
        (signed negative (ofDigits (digitValues digits)))

section
variable {v w : Value} {n m : Int}

theorem Denotes.toNumber_eq (h : Denotes v n) : v.toNumber = .ok (some (.int n)) := by
  cases h with
  | int n => rfl
  | text hb hs hne hd hlen ha =>
      rw [toNumber,String.toList_ofList,ofText?_integer hb hs hne hd ha]
      simp [numeralNumber,Numeral.toInt?,length_digitValues hd,hlen]

theorem denotes_decimalDigits {k : Nat} {sign : List Char} {negative : Bool}
    (hs : Sign sign negative) (hk : k < intLimit) :
    Denotes (.text (String.ofList (sign ++ decimalDigits k))) (signed negative k) := by
  have hdecimal : ∀ c ∈ decimalDigits k, isDecimal c = true := by
    intro c hc
    rw [isDecimal,digitValue?_of_isDigit (isDigit_decimalDigits k c hc)]
    rfl
  have hlen : (decimalDigits k).length ≤ digitLimit :=
    (Nat.length_toDigits_le_iff (by decide) (by decide)).mpr hk
  have hne : decimalDigits k ≠ [] := List.ne_nil_of_length_pos Nat.length_toDigits_pos
  have h : Denotes (.text (String.ofList ([] ++ (sign ++ (decimalDigits k ++ [])))))
      (signed negative (ofDigits (digitValues (decimalDigits k)))) :=
    .text (by simp) hs hne hdecimal hlen (by simp)
  rwa [ofDigits_decimalDigits,List.append_nil,List.nil_append] at h

/-- The text of an integer denotes it. -/
theorem denotes_intText {t : String} (h : intText n = .ok t) : Denotes (.text t) n := by
  have hrepr : Nat.repr n.natAbs = String.ofList (decimalDigits n.natAbs) :=
    Nat.repr_eq_ofList_toDigits
  rw [intText] at h
  split at h
  · rename_i hk
    have ht := Except.ok.inj h
    split at ht
    · have hd := denotes_decimalDigits .minus hk
      have hn : signed true n.natAbs = n := by
        simp only [signed,if_true]
        omega
      have htext : t = String.ofList (['-'] ++ decimalDigits n.natAbs) := by
        rw [← ht,hrepr]
        apply String.ext
        simp
      rwa [hn,← htext] at hd
    · have hd := denotes_decimalDigits .none hk
      have hn : signed false n.natAbs = n := by
        simp only [signed,Bool.false_eq_true,if_false]
        omega
      rwa [hn,List.nil_append,← hrepr,ht] at hd
  · cases h

theorem Denotes.operands_eq (hv : Denotes v m) (hw : Denotes w n) :
    operands v w = .ok (.int m,.int n) := by
  rw [operands,numericPair,hv.toNumber_eq,hw.toNumber_eq]
  rfl

theorem precedes_int (a b : Int) :
    (Value.int a).precedes (.int b) = .ok (some (decide (a < b))) := by
  rw [precedes_of_order? (v := .int a) (w := .int b) rfl rfl rfl]
  by_cases hab : a < b
  · simp [Int.compare_eq_lt.mpr hab,hab]
  · have hne : compare a b ≠ .lt := fun hc => hab (Int.compare_eq_lt.mp hc)
    simp [hab,hne]

/-- Integers compare as such, and not by way of binary numbers. -/
theorem Denotes.looseCompare_eq (hv : Denotes v m) (hw : Denotes w n) :
    v.looseCompare w = .ok (some (m - n).sign) := by
  rw [looseCompare_of_operands (hv.operands_eq hw),
    strictCompare_of_precedes (precedes_int m n) (precedes_int n m)]
  rcases Int.lt_trichotomy m n with h | h | h
  · rw [Int.sign_eq_neg_one_of_neg (by omega)]
    simp [threeWay,h]
  · simp [threeWay,h]
  · rw [Int.sign_eq_one_of_pos (by omega)]
    simp [threeWay,h,not_lt_of_gt h]

theorem Denotes.looseEqual_eq (hv : Denotes v m) (hw : Denotes w n) :
    v.looseEqual w = .ok (decide (m = n)) := by
  have hblank : ¬ Blank v w := by
    rintro (⟨rfl,-⟩ | ⟨-,rfl⟩)
    · cases hv
    · cases hw
  rw [looseEqual_of_not_blank hblank,hv.operands_eq hw]
  simp [Bind.bind,Except.bind,equal,equalsNumber,number?,Number.equal,
    Number.order?,beq_eq_decide]

/-! ## Both directions -/

/-- Loose comparison changes its sign with the direction, unless it comes down to dictionaries
of which equality fails in one direction only: then it fails in that direction, and finds no
order in the other one. Integers, given as such or in text, are compared exactly. -/
theorem looseCompare_laws (hv : v.WellFormed) (hw : w.WellFormed) :
    (w.looseCompare v = (v.looseCompare w).map (Option.map Neg.neg) ↔ ¬ OneSided v w) ∧
      (OneSided v w →
        v.looseCompare w = .error .noResult ∧ w.looseCompare v = .ok none ∨
          v.looseCompare w = .ok none ∧ w.looseCompare v = .error .noResult) ∧
      ∀ m n, Denotes v m → Denotes w n →
        v.looseCompare w = .ok (some (m - n).sign) ∧ v.looseEqual w = .ok (decide (m = n)) :=
  ⟨looseCompare_swap_iff hv hw,looseCompare_of_oneSided hv hw,
    fun _ _ hm hn => ⟨hm.looseCompare_eq hn,hm.looseEqual_eq hn⟩⟩

/-- The first integer that binary numbers pass over, in text, and the one before it. -/
theorem looseCompare_laws_large :
    (Value.text " +9007199254740993 ").looseCompare (.int 9007199254740992) = .ok (some 1) ∧
      (Value.int 9007199254740992).looseCompare (.text " +9007199254740993 ") =
        .ok (some (-1)) := by
  have hdigits : Denotes (.text (String.ofList
      ([' '] ++ (['+'] ++ ("9007199254740993".toList ++ [' '])))))
      (signed false (ofDigits (digitValues "9007199254740993".toList))) :=
    .text (List.all_eq_true.mp (by decide)) .plus (by decide)
      (List.all_eq_true.mp (by decide)) (by decide) (List.all_eq_true.mp (by decide))
  have htext : String.ofList ([' '] ++ (['+'] ++ ("9007199254740993".toList ++ [' ']))) =
      " +9007199254740993 " := by decide
  have hvalue : signed false (ofDigits (digitValues "9007199254740993".toList)) =
      9007199254740993 := by decide
  rw [htext,hvalue] at hdigits
  obtain ⟨hswap,-,hexact⟩ := looseCompare_laws (v := .text " +9007199254740993 ")
    (w := .int 9007199254740992) (.scalar rfl) (.scalar rfl)
  have hcompare := (hexact _ _ hdigits (.int _)).1
  have hone : ¬ OneSided (.text " +9007199254740993 ") (.int 9007199254740992) :=
    fun h => nomatch h.isScalar_eq_false
  refine ⟨hcompare,?_⟩
  rw [hswap.mpr hone,hcompare]
  rfl

/-- Two dictionaries that differ at a plain number, in one direction only before a signalling
NaN is met. -/
theorem looseCompare_one_sided :
    let v : Value := .list [.dict [(.text "a",.int 1),(.text "b",.decimal (.signalNaN false 0))]]
    let w : Value := .list [.dict [(.text "b",.decimal (.signalNaN false 0)),(.text "a",.int 2)]]
    v.looseCompare w = .ok none ∧ w.looseCompare v = .error .noResult := by
  intro v w
  exact ⟨by decide +kernel,by decide +kernel⟩

end

end Value

end Vetting
