import Vetting.Proofs.Value.Unordered

/-!
# Loose comparison

Loose comparison takes two values for the numbers that they are or spell, if both of them are
numbers in this sense, and for themselves otherwise. Which of it is the case does not depend on
the direction. What is known of strict comparison so holds of the loose one, with a signalling
NaN as a reason more to fail, as it cannot be read as a binary number.
-/
namespace Vetting
open Number

namespace Value

section
variable {v w p q : Value} {a b : Number} {f : Fault}

/-! ## What is compared -/

/-- What a loose comparison compares. -/
def operands (v w : Value) : Except Fault (Value × Value) := do
  match ← numericPair v w with
  | some (a,b) => .ok (ofNumber a,ofNumber b)
  | none => .ok (v,w)

theorem looseCompare_eq (v w : Value) :
    v.looseCompare w = operands v w >>= fun o => o.1.strictCompare o.2 := by
  rw [looseCompare,operands]
  cases numericPair v w with
  | error f => rfl
  | ok o => cases o <;> rfl

/-- A value that is neither a collection nor a decimal: what numbers are taken for. -/
def IsPlain (v : Value) : Prop := v.isScalar = true ∧ v.kind ≠ .decimal

theorem isPlain_ofNumber (h : v.toNumber = .ok (some a)) : (ofNumber a).IsPlain := by
  cases v with
  | int n =>
      cases h
      exact ⟨rfl,nofun⟩
  | float x =>
      cases h
      exact ⟨rfl,nofun⟩
  | decimal d =>
      rw [toNumber,decimalNumber] at h
      split at h
      · cases h
        exact ⟨rfl,nofun⟩
      · cases h
  | text s =>
      rw [toNumber] at h
      obtain ⟨n,-,rfl⟩ := Option.map_eq_some_iff.mp (Except.ok.inj h)
      rw [numeralNumber]
      split <;> exact ⟨rfl,nofun⟩
  | _ => cases h

theorem toNumber_of_isSignal (h : v.isSignal = true) : v.toNumber = .error .badValue := by
  cases v with
  | decimal d => cases d <;> first | rfl | cases h
  | _ => cases h

theorem exists_toNumber (h : v.isSignal = false) : ∃ o, v.toNumber = .ok o := by
  cases v with
  | decimal d => cases d <;> first | exact ⟨_,rfl⟩ | cases h
  | _ => exact ⟨_,rfl⟩

/-- What two values are compared as: there is no telling with a signalling NaN, two numbers are
compared as such, and other values as they are. -/
inductive Compared (v w : Value) : Except Fault (Value × Value) → Prop
  | signal (h : v.isSignal = true ∨ w.isSignal = true) : Compared v w (.error .badValue)
  | numbers {a b : Number} (hv : v.toNumber = .ok (some a)) (hw : w.toNumber = .ok (some b)) :
      Compared v w (.ok (ofNumber a,ofNumber b))
  | values (hv : v.isSignal = false) (hw : w.isSignal = false)
      (h : v.toNumber = .ok none ∨ w.toNumber = .ok none) : Compared v w (.ok (v,w))

theorem operands_compared (v w : Value) : Compared v w (operands v w) := by
  rw [operands,numericPair]
  cases hv : v.isSignal with
  | true =>
      rw [toNumber_of_isSignal hv]
      exact .signal (Or.inl hv)
  | false =>
      obtain ⟨o,ho⟩ := exists_toNumber hv
      rw [ho]
      cases hw : w.isSignal with
      | true =>
          rw [toNumber_of_isSignal hw]
          exact .signal (Or.inr hw)
      | false =>
          obtain ⟨o',ho'⟩ := exists_toNumber hw
          rw [ho']
          cases o with
          | none => exact .values hv hw (Or.inl ho)
          | some a =>
              cases o' with
              | none => exact .values hv hw (Or.inr ho')
              | some b => exact .numbers ho ho'

theorem fault_of_toNumber (h : v.toNumber = .error f) : f = .badValue := by
  cases hs : v.isSignal with
  | true =>
      rw [toNumber_of_isSignal hs] at h
      exact (Except.error.inj h).symm
  | false =>
      obtain ⟨o,ho⟩ := exists_toNumber hs
      rw [ho] at h
      cases h

theorem operands_swap (v w : Value) : operands w v = (operands v w).map Prod.swap := by
  rw [operands,operands,numericPair,numericPair]
  cases hv : v.toNumber with
  | error f =>
      rw [fault_of_toNumber hv]
      cases hw : w.toNumber with
      | error g =>
          rw [fault_of_toNumber hw]
          rfl
      | ok o => rfl
  | ok o =>
      cases w.toNumber with
      | error g => rfl
      | ok o' => cases o <;> cases o' <;> rfl

/-! ## Numbers -/

theorem Crux.of_isScalar {x y : Value} (h : Crux v w x y) (hs : v.isScalar = true) :
    x = v ∧ y = w := by
  cases h with
  | itself => exact ⟨rfl,rfl⟩
  | list => cases hs
  | tuple => cases hs

theorem IsPlain.not_falters (hv : v.IsPlain) (hw : w.IsPlain) : ¬ Falters v w := by
  intro h
  cases h with
  | number ha hb h =>
      rcases h with h | h
      · exact hv.2 (kind_of_signal ha h)
      · exact hw.2 (kind_of_signal hb h)
  | list => cases hv.1
  | tuple => cases hv.1
  | dict => cases hv.1

theorem IsPlain.not_breaks (hv : v.IsPlain) (hw : w.IsPlain) : ¬ Breaks v w := by
  rintro ⟨-,x,y,hc,h⟩
  obtain ⟨rfl,rfl⟩ := hc.of_isScalar hv.1
  cases h with
  | inl h =>
      obtain ⟨a,b,-,-,-,hkind⟩ := h
      exact hkind.elim hv.2 hw.2
  | inr h => exact hv.not_falters hw h

theorem IsPlain.wellFormed (hv : v.IsPlain) : v.WellFormed := .scalar hv.1

/-- A value with a number is no collection, and with another such value, neither of them a
signalling NaN, its equality does not fail. -/
theorem not_falters_of_toNumber (hv : v.toNumber = .ok (some a)) (hw : w.toNumber = .ok (some b)) :
    ¬ Falters v w := by
  intro h
  cases h with
  | number ha hb h =>
      rw [← isSignal_of_number? ha,← isSignal_of_number? hb] at h
      rcases h with h | h
      · rw [toNumber_of_isSignal h] at hv
        cases hv
      · rw [toNumber_of_isSignal h] at hw
        cases hw
  | list => cases hv
  | tuple => cases hv
  | dict => cases hv

/-! ## Equality -/

/-- Null and the empty text, which are taken for each other. -/
def Blank (v w : Value) : Prop := v = .null ∧ w = .text "" ∨ v = .text "" ∧ w = .null

theorem looseEqual_of_blank (h : Blank v w) : v.looseEqual w = .ok true := by
  rcases h with ⟨rfl,rfl⟩ | ⟨rfl,rfl⟩
  · rfl
  · rfl

theorem looseEqual_of_not_blank (h : ¬ Blank v w) :
    v.looseEqual w = operands v w >>= fun o => o.1.equal o.2 := by
  unfold looseEqual operands
  cases numericPair v w with
  | error f => rfl
  | ok o =>
      cases o with
      | some o => rfl
      | none =>
          simp only [Bind.bind,Except.bind]
          split
          · rename_i s
            have hs : s ≠ "" := fun hs => h (Or.inl ⟨rfl,by rw [hs]⟩)
            simp [equal,isNull,hs]
          · rename_i s
            have hs : s ≠ "" := fun hs => h (Or.inr ⟨by rw [hs],rfl⟩)
            simp [equal,hs]
          · rfl

/-- Loose equality fails. -/
def FaltersLoosely (v w : Value) : Prop := v.isSignal = true ∨ w.isSignal = true ∨ Falters v w

theorem Blank.not_falters (h : Blank v w) : ¬ FaltersLoosely v w := by
  have hfalters {x y : Value} (hx : x.number? = none) (hscalar : x.isScalar = true) :
      ¬ Falters x y := by
    intro hs
    cases hs with
    | number ha hb => cases hx.symm.trans ha
    | list => cases hscalar
    | tuple => cases hscalar
    | dict => cases hscalar
  rcases h with ⟨rfl,rfl⟩ | ⟨rfl,rfl⟩
  · exact fun h => h.elim nofun fun h => h.elim nofun (hfalters rfl rfl)
  · exact fun h => h.elim nofun fun h => h.elim nofun (hfalters rfl rfl)

theorem exists_looseEqual_iff (hv : v.WellFormed) (hw : w.WellFormed) :
    (∃ b, v.looseEqual w = .ok b) ↔ ¬ FaltersLoosely v w := by
  by_cases hblank : Blank v w
  · simp [looseEqual_of_blank hblank,hblank.not_falters]
  · rw [looseEqual_of_not_blank hblank]
    have hc := operands_compared v w
    generalize operands v w = o at hc ⊢
    cases hc with
    | signal h =>
        have hf : FaltersLoosely v w := h.imp_right Or.inl
        simp [Bind.bind,Except.bind,hf]
    | numbers ha hb =>
        have hp := isPlain_ofNumber ha
        have hq := isPlain_ofNumber hb
        refine iff_of_true ?_ ?_
        · exact (exists_equal_iff hp.wellFormed hq.wellFormed).mpr (hp.not_falters hq)
        · rintro (h | h | h)
          · simp [toNumber_of_isSignal h] at ha
          · simp [toNumber_of_isSignal h] at hb
          · exact not_falters_of_toNumber ha hb h
    | values hv' hw' h =>
        refine (exists_equal_iff hv hw).trans (not_congr ?_)
        simp [FaltersLoosely,hv',hw']

/-! ## Comparison -/

/-- Loose comparison fails. -/
def BreaksLoosely (v w : Value) : Prop :=
  v.isSignal = true ∨ w.isSignal = true ∨ ∃ p q, operands v w = .ok (p,q) ∧ Breaks p q

/-- What is compared has no order, although its kinds have one. -/
def UnorderedLoosely (v w : Value) : Prop := ∃ p q, operands v w = .ok (p,q) ∧ Unordered p q

theorem operands_of_isSignal (h : v.isSignal = true ∨ w.isSignal = true) :
    operands v w = .error .badValue := by
  have hc := operands_compared v w
  generalize operands v w = o at hc ⊢
  cases hc with
  | signal => rfl
  | numbers ha hb =>
      rcases h with h | h
      · simp [toNumber_of_isSignal h] at ha
      · simp [toNumber_of_isSignal h] at hb
  | values hv hw => simp [hv,hw] at h

theorem exists_operands (hv : v.WellFormed) (hw : w.WellFormed)
    (h : ¬ (v.isSignal = true ∨ w.isSignal = true)) :
    ∃ p q, operands v w = .ok (p,q) ∧ p.WellFormed ∧ q.WellFormed := by
  have hc := operands_compared v w
  generalize operands v w = o at hc ⊢
  cases hc with
  | signal h' => exact absurd h' h
  | numbers ha hb =>
      exact ⟨_,_,rfl,(isPlain_ofNumber ha).wellFormed,(isPlain_ofNumber hb).wellFormed⟩
  | values => exact ⟨v,w,rfl,hv,hw⟩

theorem looseCompare_of_operands (h : operands v w = .ok (p,q)) :
    v.looseCompare w = p.strictCompare q := by
  rw [looseCompare_eq,h]
  rfl

theorem exists_looseCompare_iff (hv : v.WellFormed) (hw : w.WellFormed) :
    (∃ o, v.looseCompare w = .ok o) ↔ ¬ BreaksLoosely v w := by
  by_cases hs : v.isSignal = true ∨ w.isSignal = true
  · have hb : BreaksLoosely v w := hs.imp_right Or.inl
    simp [looseCompare_eq,operands_of_isSignal hs,Bind.bind,Except.bind,hb]
  · obtain ⟨p,q,hpq,hp,hq⟩ := exists_operands hv hw hs
    have hb : BreaksLoosely v w ↔ Breaks p q := by
      rw [not_or] at hs
      simp [BreaksLoosely,hs,hpq]
    rw [hb,looseCompare_of_operands hpq]
    constructor
    · rintro ⟨o,ho⟩ hbreaks
      rw [strictCompare_of_breaks hp hq hbreaks] at ho
      cases ho
    · exact exists_strictCompare hp hq

theorem OneSided.isScalar_eq_false (h : OneSided v w) : v.isScalar = false := by
  obtain ⟨hd,p,q,hc,hp,-⟩ := h
  cases hc with
  | itself => exact absurd hp hd
  | list => rfl
  | tuple => rfl

theorem isScalar_of_toNumber (h : v.toNumber = .ok (some a)) : v.isScalar = true := by
  cases v <;> first | rfl | cases h

theorem isScalar_of_isSignal (h : v.isSignal = true) : v.isScalar = true := by
  cases v <;> first | rfl | cases h

/-- Loose comparison changes its sign with the direction, unless it fails in one of them only. -/
theorem looseCompare_swap_iff (hv : v.WellFormed) (hw : w.WellFormed) :
    w.looseCompare v = (v.looseCompare w).map (Option.map Neg.neg) ↔ ¬ OneSided v w := by
  have hscalars (h : v.isScalar = true ∨ w.isScalar = true) : ¬ OneSided v w := by
    intro hone
    rcases h with h | h
    · simp [hone.isScalar_eq_false] at h
    · simp [(hone.symm hv hw).isScalar_eq_false] at h
  rw [looseCompare_eq,looseCompare_eq v,operands_swap]
  have hc := operands_compared v w
  generalize operands v w = o at hc ⊢
  cases hc with
  | signal h =>
      exact iff_of_true rfl (hscalars (h.imp isScalar_of_isSignal isScalar_of_isSignal))
  | numbers ha hb =>
      have hp := isPlain_ofNumber ha
      have hq := isPlain_ofNumber hb
      have hswap := strictCompare_swap hp.wellFormed hq.wellFormed (hp.not_breaks hq)
        (hq.not_breaks hp)
      exact iff_of_true hswap (hscalars (Or.inl (isScalar_of_toNumber ha)))
  | values => exact strictCompare_swap_iff hv hw

theorem looseCompare_of_oneSided (hv : v.WellFormed) (hw : w.WellFormed) (h : OneSided v w) :
    v.looseCompare w = .error .noResult ∧ w.looseCompare v = .ok none ∨
      v.looseCompare w = .ok none ∧ w.looseCompare v = .error .noResult := by
  have hthemselves {x y : Value} (hx : x.WellFormed) (hy : y.WellFormed) (h : OneSided x y) :
      operands x y = .ok (x,y) := by
    have hx' := h.isScalar_eq_false
    have hy' := (h.symm hx hy).isScalar_eq_false
    have hc := operands_compared x y
    generalize operands x y = o at hc ⊢
    cases hc with
    | signal hs => rcases hs with hs | hs <;> simp [isScalar_of_isSignal hs] at hx' hy'
    | numbers ha hb => simp [isScalar_of_toNumber ha] at hx'
    | values => rfl
  rw [looseCompare_of_operands (hthemselves hv hw h),
    looseCompare_of_operands (hthemselves hw hv (h.symm hv hw))]
  exact strictCompare_of_oneSided hv hw h

/-! ## Comparison and equality -/

theorem Blank.operands_eq (h : Blank v w) : operands v w = .ok (v,w) := by
  rcases h with ⟨rfl,rfl⟩ | ⟨rfl,rfl⟩
  · rfl
  · rfl

theorem Blank.precedes_eq (h : Blank v w) : v.precedes w = .ok none := by
  rcases h with ⟨rfl,rfl⟩ | ⟨rfl,rfl⟩
  · simp [precedes]
  · simp [precedes]

theorem Blank.looseCompare_eq (h : Blank v w) : v.looseCompare w = .ok none := by
  rw [looseCompare_of_operands h.operands_eq,strictCompare,h.precedes_eq]
  rfl

/-- Loose equality is the equality of what is compared, but for the blank pair. -/
theorem looseEqual_eq_true_iff (h : operands v w = .ok (p,q)) :
    v.looseEqual w = .ok true ↔ Blank v w ∨ p.Equals q := by
  by_cases hblank : Blank v w
  · simp [looseEqual_of_blank hblank,hblank]
  · rw [looseEqual_of_not_blank hblank,h]
    simp [hblank,Equals,Bind.bind,Except.bind]

theorem wellFormed_of_operands (hv : v.WellFormed) (hw : w.WellFormed)
    (h : operands v w = .ok (p,q)) : p.WellFormed ∧ q.WellFormed := by
  have hs : ¬ (v.isSignal = true ∨ w.isSignal = true) := fun hs => by
    simp [operands_of_isSignal hs] at h
  obtain ⟨x,y,hxy,hx,hy⟩ := exists_operands hv hw hs
  rw [h] at hxy
  cases hxy
  exact ⟨hx,hy⟩

theorem exists_operands_of_looseCompare {o : Option Int} (h : v.looseCompare w = .ok o) :
    ∃ p q, operands v w = .ok (p,q) ∧ p.strictCompare q = .ok o := by
  rw [looseCompare_eq] at h
  cases hpq : operands v w with
  | error f => simp [hpq,Bind.bind,Except.bind] at h
  | ok o =>
      rw [hpq] at h
      exact ⟨o.1,o.2,rfl,h⟩

/-- Values that compare as level are equal, or no order holds of them. -/
theorem equal_or_unordered (hv : v.WellFormed) (hw : w.WellFormed)
    (h : v.looseCompare w = .ok (some 0)) : v.looseEqual w = .ok true ∨ UnorderedLoosely v w := by
  obtain ⟨p,q,hpq,hzero⟩ := exists_operands_of_looseCompare h
  obtain ⟨hp,hq⟩ := wellFormed_of_operands hv hw hpq
  rcases (strictCompare_eq_zero_iff.mp hzero).equals_or_unordered hp hq with he | hu
  · exact Or.inl ((looseEqual_eq_true_iff hpq).mpr (Or.inr he))
  · exact Or.inr ⟨p,q,hpq,hu⟩

theorem looseCompare_of_looseEqual (hv : v.WellFormed) (hw : w.WellFormed)
    (h : v.looseEqual w = .ok true) {o : Option Int} (ho : v.looseCompare w = .ok o) :
    o = none ∨ o = some 0 := by
  obtain ⟨p,q,hpq,hstrict⟩ := exists_operands_of_looseCompare ho
  obtain ⟨hp,hq⟩ := wellFormed_of_operands hv hw hpq
  rcases (looseEqual_eq_true_iff hpq).mp h with hblank | he
  · rw [hblank.looseCompare_eq] at ho
    exact Or.inl (Except.ok.inj ho).symm
  · rcases strictCompare_of_equals hp hq he with hnone | hzero
    · rw [hnone] at hstrict
      exact Or.inl (Except.ok.inj hstrict).symm
    · rw [hzero] at hstrict
      exact Or.inr (Except.ok.inj hstrict).symm

theorem UnorderedLoosely.looseCompare_eq (h : UnorderedLoosely v w) (hv : v.WellFormed)
    (hw : w.WellFormed) {o : Option Int} (ho : v.looseCompare w = .ok o) : o = some 0 := by
  obtain ⟨p,q,hpq,hu⟩ := h
  obtain ⟨hp,hq⟩ := wellFormed_of_operands hv hw hpq
  rw [looseCompare_of_operands hpq] at ho
  have hb : ¬ Breaks p q := fun hb => by simp [strictCompare_of_breaks hp hq hb] at ho
  rw [hu.strictCompare_eq hp hq hb] at ho
  exact (Except.ok.inj ho).symm

theorem UnorderedLoosely.looseEqual_ne (h : UnorderedLoosely v w) (hv : v.WellFormed)
    (hw : w.WellFormed) : v.looseEqual w ≠ .ok true := by
  intro he
  obtain ⟨p,q,hpq,hu⟩ := h
  obtain ⟨hp,hq⟩ := wellFormed_of_operands hv hw hpq
  rcases (looseEqual_eq_true_iff hpq).mp he with hblank | he
  · have hzero := UnorderedLoosely.looseCompare_eq ⟨p,q,hpq,hu⟩ hv hw hblank.looseCompare_eq
    cases hzero
  · exact hu.not_equals hp hq he

/-! ## Values of one kind -/

theorem number?_ofNumber (a : Number) : (ofNumber a).number? = some a := by
  cases a <;> rfl

theorem equals_ofNumber_iff : (ofNumber a).Equals (ofNumber b) ↔ a.order? b = some .eq := by
  simp [equals_iff_of_number? (number?_ofNumber a),number?_ofNumber]

/-- The number that a numeral spells equals itself: it is no NaN. -/
theorem order?_numeralNumber_self (n : Numeral) :
    (numeralNumber n).order? (numeralNumber n) = some .eq := by
  rw [numeralNumber]
  split
  · simp [Number.order?]
  · rw [order?_binary_self,Numeral.toBinary64,if_neg (Binary64.ofScaled_ne_nan _ _ _)]

theorem order?_of_toNumber (hkind : v.kind = w.kind) (h : v.Equals w)
    (ha : v.toNumber = .ok (some a)) (hb : w.toNumber = .ok (some b)) :
    a.order? b = some .eq := by
  cases v with
  | int n =>
      cases w <;> cases hkind
      cases ha
      cases hb
      exact order?_of_equals rfl rfl h
  | float x =>
      cases w <;> cases hkind
      cases ha
      cases hb
      exact order?_of_equals rfl rfl h
  | decimal c =>
      cases w with
      | decimal d =>
          obtain ⟨x,y,hx,hy,hxy⟩ := order?_toBinary64 (order?_of_equals rfl rfl h)
          rw [toNumber,decimalNumber,hx] at ha
          rw [toNumber,decimalNumber,hy] at hb
          cases ha
          cases hb
          exact hxy
      | _ => cases hkind
  | text s =>
      cases w with
      | text t =>
          obtain rfl : s = t := by simpa [Equals,equal] using h
          rw [ha] at hb
          cases hb
          obtain ⟨n,-,rfl⟩ := Option.map_eq_some_iff.mp (Except.ok.inj ha)
          exact order?_numeralNumber_self n
      | _ => cases hkind
  | _ => cases ha

theorem kind_of_isSignal (h : v.isSignal = true) : v.kind = .decimal := by
  cases v <;> first | rfl | cases h

theorem not_isSignal_of_equals (hkind : v.kind = w.kind) (h : v.Equals w) :
    ¬ (v.isSignal = true ∨ w.isSignal = true) := by
  intro hs
  have hv : v.kind = .decimal :=
    hs.elim kind_of_isSignal fun hs => hkind.trans (kind_of_isSignal hs)
  have hw : w.kind = .decimal := hkind.symm.trans hv
  cases v <;> cases hv
  cases w <;> cases hw
  rw [isSignal_of_number? rfl,isSignal_of_number? rfl] at hs
  simp [Equals,equal,equalsNumber,number?,Number.equal_eq,hs] at h

/-- Equal values of one kind are equal loosely. -/
theorem looseEqual_of_equals (hkind : v.kind = w.kind) (h : v.Equals w) :
    v.looseEqual w = .ok true := by
  have hc := operands_compared v w
  cases ho : operands v w with
  | error f =>
      rw [ho] at hc
      cases hc with
      | signal hs => exact absurd hs (not_isSignal_of_equals hkind h)
  | ok o =>
      refine (looseEqual_eq_true_iff ho).mpr (Or.inr ?_)
      rw [ho] at hc
      cases hc with
      | numbers ha hb => exact equals_ofNumber_iff.mpr (order?_of_toNumber hkind h ha hb)
      | values => exact h

end

end Value

end Vetting
