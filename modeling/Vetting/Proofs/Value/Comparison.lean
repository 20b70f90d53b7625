import Vetting.Proofs.Value.Precedence
import Vetting.Reading

/-!
# Comparing in both directions

The order of two values is asked for in one direction, and in the other one if it does not hold.
Both directions come down to the same two values. So they answer alike, with one exception: of
two dictionaries met in lists or tuples equality can fail in one direction only. Where neither
value comes first the two are equal, or they are among the few that no order holds of.
-/
namespace Vetting
open Number

namespace Value

section
variable {v w x y p q : Value} {xs ys : List Value} {a b : Number} {f : Fault} {r s : Option Bool}

/-! ## Failing orders -/

/-- The order comes down to numbers that clash, or to values whose equality fails. -/
def Breaks (v w : Value) : Prop :=
  v.kind ≠ .dict ∧ ∃ p q, Crux v w p q ∧ (Clash p q ∨ Falters p q)

theorem Clash.kind_ne (h : Clash v w) : v.kind ≠ .dict := by
  obtain ⟨a,b,ha,-⟩ := h
  intro hd
  cases v <;> cases hd
  cases ha

theorem Breaks.precedes_eq (h : Breaks v w) (hv : v.WellFormed) (hw : w.WellFormed) :
    v.precedes w = .error .noResult := by
  obtain ⟨hd,p,q,hc,h⟩ := h
  obtain ⟨hp,hq⟩ := hc.wellFormed hv hw
  rw [← standing_eq_precedes hv hw hd,hc.standing_eq]
  cases h with
  | inl h => rw [standing_eq_precedes hp hq h.kind_ne,h.precedes_eq]
  | inr h => exact standing_of_equal_error (h.equal_eq hp hq)

theorem exists_crux_of_standing_eq (hv : v.WellFormed) (hw : w.WellFormed)
    (ih : v.precedes w = .error f → ∃ p q, Crux v w p q ∧ (Clash p q ∨ Falters p q))
    (h : v.standing w = .error f) : ∃ p q, Crux v w p q ∧ (Clash p q ∨ Falters p q) := by
  rcases equal_cases v w with he | he | ⟨g,he⟩
  · exact ih (standing_of_equal_ok he ▸ h)
  · exact ih (standing_of_equal_ok he ▸ h)
  · exact ⟨v,w,.itself,Or.inr (falters_of_equal_eq he hv hw)⟩

theorem exists_crux_of_precedes_eq (h : v.precedes w = .error f) (hv : v.WellFormed)
    (hw : w.WellFormed) : ∃ p q, Crux v w p q ∧ (Clash p q ∨ Falters p q) := by
  induction hv generalizing w with
  | @scalar v hs =>
      rcases number?_or_mark? hs with ⟨a,ha⟩ | ⟨m,hm⟩
      · cases hb : w.number? with
        | none => simp [precedes_of_number? ha,precedesNumber,hb] at h
        | some b =>
            cases ho : a.order? b with
            | none =>
                rcases precedes_of_order?_none ha hb ho with hclash | hok
                · exact ⟨v,w,.itself,Or.inl hclash⟩
                · simp [hok] at h
            | some o => simp [precedes_of_order? ha hb ho] at h
      · simp [precedes_of_mark? hm] at h
  | @list xs hx ih =>
      cases w with
      | list ys =>
          have hy := hw.items (Or.inl rfl)
          rw [precedes] at h
          rcases equalItems_or_firstUnequal xs ys with hitems | ⟨x,y,first⟩
          · simp [precedesItems_of_equalItems hitems] at h
          · rw [first.standing_eq] at h
            have hxy := hy y first.mem.2
            obtain ⟨p,q,hc,hpq⟩ := exists_crux_of_standing_eq (hx x first.mem.1) hxy
              (fun h => ih x first.mem.1 h hxy) h
            exact ⟨p,q,.list first hc,hpq⟩
      | _ => simp [precedes] at h
  | @tuple xs hx ih =>
      cases w with
      | tuple ys =>
          have hy := hw.items (Or.inr rfl)
          rw [precedes] at h
          rcases equalItems_or_firstUnequal xs ys with hitems | ⟨x,y,first⟩
          · simp [precedesItems_of_equalItems hitems] at h
          · rw [first.standing_eq] at h
            have hxy := hy y first.mem.2
            obtain ⟨p,q,hc,hpq⟩ := exists_crux_of_standing_eq (hx x first.mem.1) hxy
              (fun h => ih x first.mem.1 h hxy) h
            exact ⟨p,q,.tuple first hc,hpq⟩
      | _ => simp [precedes] at h
  | @set xs hk hd =>
      cases w with
      | set ys =>
          rw [precedes,containedIn_eq hk hw.members] at h
          split at h <;> cases h
      | _ => simp [precedes] at h
  | dict => simp [precedes] at h

theorem precedes_eq_error_iff (hv : v.WellFormed) (hw : w.WellFormed) :
    v.precedes w = .error f ↔ f = .noResult ∧ Breaks v w := by
  constructor
  · intro h
    have hd : v.kind ≠ .dict := by
      intro hd
      cases v <;> cases hd
      simp [precedes] at h
    have hbreaks : Breaks v w := ⟨hd,exists_crux_of_precedes_eq h hv hw⟩
    rw [hbreaks.precedes_eq hv hw] at h
    exact ⟨(Except.error.inj h).symm,hbreaks⟩
  · rintro ⟨rfl,h⟩
    exact h.precedes_eq hv hw

/-! ## Both directions -/

theorem precedes_none_of_number? (ha : v.number? = some a) (hw : w.number? = none) :
    w.precedes v = .ok none := by
  cases w <;> first | contradiction | (cases v <;> first | contradiction | simp [precedes])

theorem precedes_none_of_mark? {m : Mark} (hm : v.mark? = some m) (hw : w.mark? = none) :
    w.precedes v = .ok none := by
  cases w <;> first | contradiction |
    (cases v <;> first | contradiction | simp [precedes,precedesNumber,number?])

/-- Two answers that an order can give in its two directions. -/
def Opposite (r s : Option Bool) : Prop := r.isSome = s.isSome ∧ ¬ (r = some true ∧ s = some true)

theorem opposite_none : Opposite none none := by simp [Opposite]

theorem precedesItems_swap (hx : ∀ x ∈ xs, x.WellFormed) (hy : ∀ y ∈ ys, y.WellFormed)
    (ih : ∀ x ∈ xs, ∀ y ∈ ys, ∀ r s, x.precedes y = .ok r → y.precedes x = .ok s → Opposite r s)
    (h : precedesItems xs ys = .ok r) (h' : precedesItems ys xs = .ok s) : Opposite r s := by
  rcases equalItems_or_firstUnequal xs ys with hitems | ⟨x,y,first⟩
  · have hitems' := equalItems_symm (fun x hm y hn => Equals.symm (hx x hm) (hy y hn)) hitems
    rw [precedesItems_of_equalItems hitems] at h
    rw [precedesItems_of_equalItems hitems'] at h'
    cases h
    cases h'
    simp only [Opposite,Option.isSome_some,Option.some.injEq,decide_eq_true_eq,true_and]
    omega
  · have first' := first.symm fun x hm y hn => equals_comm (hx x hm) (hy y hn)
    rw [first.standing_eq,standing_eq_ok_iff] at h
    rw [first'.standing_eq,standing_eq_ok_iff] at h'
    exact ih x first.mem.1 y first.mem.2 r s h.2 h'.2

theorem precedes_swap (hv : v.WellFormed) (hw : w.WellFormed) (h : v.precedes w = .ok r)
    (h' : w.precedes v = .ok s) : Opposite r s := by
  induction hv generalizing w r s with
  | @scalar v hs =>
      rcases number?_or_mark? hs with ⟨a,ha⟩ | ⟨m,hm⟩
      · cases hb : w.number? with
        | none =>
            rw [precedes_of_number? ha,precedesNumber,hb] at h
            rw [precedes_none_of_number? ha hb] at h'
            cases h
            cases h'
            exact opposite_none
        | some b =>
            cases ho : a.order? b with
            | none =>
                have ho' : b.order? a = none := by
                  rw [order?_swap,ho]
                  rfl
                have hr := (precedes_of_order?_none ha hb ho).resolve_left fun hc => by
                  simp [hc.precedes_eq] at h
                have hs := (precedes_of_order?_none hb ha ho').resolve_left fun hc => by
                  simp [hc.precedes_eq] at h'
                rw [hr] at h
                rw [hs] at h'
                cases h
                cases h'
                simp [Opposite]
            | some o =>
                have ho' : b.order? a = some o.swap := by
                  rw [order?_swap,ho]
                  rfl
                rw [precedes_of_order? ha hb ho] at h
                rw [precedes_of_order? hb ha ho'] at h'
                cases h
                cases h'
                cases o <;> simp [Opposite]
      · rw [precedes_of_mark? hm] at h
        cases hn : w.mark? with
        | none =>
            rw [precedes_none_of_mark? hm hn] at h'
            rw [hn] at h
            cases h
            cases h'
            exact opposite_none
        | some n =>
            rw [precedes_of_mark? hn,hm] at h'
            rw [hn] at h
            cases h
            cases h'
            exact Mark.below?_swap m n
  | @list xs hx ih =>
      cases w with
      | list ys =>
          have hy := hw.items (Or.inl rfl)
          rw [precedes] at h h'
          exact precedesItems_swap hx hy (fun x hm y hn r s => ih x hm (hy y hn)) h h'
      | _ =>
          simp [precedes,precedesNumber,number?] at h h'
          exact h ▸ h' ▸ opposite_none
  | @tuple xs hx ih =>
      cases w with
      | tuple ys =>
          have hy := hw.items (Or.inr rfl)
          rw [precedes] at h h'
          exact precedesItems_swap hx hy (fun x hm y hn r s => ih x hm (hy y hn)) h h'
      | _ =>
          simp [precedes,precedesNumber,number?] at h h'
          exact h ▸ h' ▸ opposite_none
  | @set xs hk hd =>
      cases w with
      | set ys =>
          rw [precedes,containedIn_eq hk hw.members] at h
          rw [precedes,containedIn_eq hw.members hk] at h'
          split at h <;> cases h <;> split at h' <;> cases h' <;> simp [Opposite]
          omega
      | _ =>
          simp [precedes,precedesNumber,number?] at h h'
          exact h ▸ h' ▸ opposite_none
  | dict =>
      cases w with
      | _ =>
          simp [precedes,precedesNumber,number?] at h h'
          exact h ▸ h' ▸ opposite_none

/-! ## Three-way comparison -/

/-- What a three-way comparison makes of the answers in its two directions. -/
def threeWay : Option Bool → Option Bool → Option Int
  | none, _ => none
  | some true, _ => some (-1)
  | some false, none => none
  | some false, some true => some 1
  | some false, some false => some 0

theorem strictCompare_of_precedes (h : v.precedes w = .ok r) (h' : w.precedes v = .ok s) :
    v.strictCompare w = .ok (threeWay r s) := by
  rw [strictCompare,h]
  cases r with
  | none => rfl
  | some b =>
      cases b with
      | true => rfl
      | false =>
          simp only [Bind.bind,Except.bind,h']
          cases s with
          | none => rfl
          | some b => cases b <;> rfl

theorem threeWay_swap (h : Opposite r s) : threeWay s r = (threeWay r s).map Neg.neg := by
  obtain ⟨hsome,hboth⟩ := h
  cases r with
  | none => cases s <;> simp_all [threeWay]
  | some b =>
      cases s with
      | none => cases hsome
      | some c => cases b <;> cases c <;> simp_all [threeWay]

theorem precedes_dict (hv : v.kind = .dict) (w : Value) : v.precedes w = .ok none := by
  cases v <;> cases hv
  rw [precedes]

theorem precedes_of_dict (v : Value) (hw : w.kind = .dict) : v.precedes w = .ok none := by
  cases w <;> cases hw
  cases v <;> simp [precedes,precedesNumber,number?]

theorem Breaks.exists_crux (h : Breaks v w) :
    ∃ p q, Crux v w p q ∧ (Clash p q ∨ p.kind = .dict ∧ q.kind = .dict ∧ Falters p q) := by
  obtain ⟨-,p,q,hc,hclash | hfalters⟩ := h
  · exact ⟨p,q,hc,Or.inl hclash⟩
  · obtain ⟨t,u,hc',htu⟩ := hfalters.exists_crux
    exact ⟨t,u,hc.trans hc',htu⟩

theorem standing_dicts (hp : p.kind = .dict) :
    p.standing q = (p.equal q).map fun _ => none := by
  rw [standing]
  simp only [precedes_dict hp]
  cases p.equal q <;> rfl

/-- Where the order comes down to dictionaries, it fails if their equality does. -/
theorem breaks_iff_of_crux (hv : v.WellFormed) (hw : w.WellFormed) (hc : Crux v w p q)
    (hd : v.kind ≠ .dict) (hp : p.kind = .dict) : Breaks v w ↔ Falters p q := by
  obtain ⟨hp',hq'⟩ := hc.wellFormed hv hw
  have hbreaks := precedes_eq_error_iff (f := .noResult) hv hw
  have hfalters := equal_eq_error_iff (f := .noResult) hp' hq'
  rw [← standing_eq_precedes hv hw hd,hc.standing_eq,standing_dicts hp] at hbreaks
  simp only [true_and] at hbreaks hfalters
  rw [← hbreaks,← hfalters]
  cases p.equal q <;> simp [Except.map]

/-- Where an order has an answer in one direction, it does not fail in the other one. -/
theorem exists_precedes_swap {c : Bool} (hv : v.WellFormed) (hw : w.WellFormed)
    (h : v.precedes w = .ok (some c)) : ∃ s, w.precedes v = .ok s := by
  have hd : v.kind ≠ .dict := fun hd => by simp [precedes_dict hd] at h
  cases h' : w.precedes v with
  | ok s => exact ⟨s,rfl⟩
  | error f =>
      exfalso
      obtain ⟨-,hbreaks⟩ := (precedes_eq_error_iff hw hv).mp h'
      obtain ⟨p,q,hc,hclash | ⟨-,hq,-⟩⟩ := hbreaks.exists_crux
      · have hback : Breaks v w := ⟨hd,q,p,hc.symm hw hv,Or.inl hclash.symm⟩
        simp [hback.precedes_eq hv hw] at h
      · rw [← standing_eq_precedes hv hw hd,(hc.symm hw hv).standing_eq,standing_dicts hq] at h
        cases he : q.equal p <;> simp [he,Except.map] at h

theorem strictCompare_eq_error_iff (hv : v.WellFormed) (hw : w.WellFormed) :
    v.strictCompare w = .error f ↔ f = .noResult ∧ Breaks v w := by
  rw [← precedes_eq_error_iff hv hw]
  cases hr : v.precedes w with
  | error g => simp [strictCompare,hr,Bind.bind,Except.bind]
  | ok r =>
      cases r with
      | none => simp [strictCompare,hr,Bind.bind,Except.bind]
      | some c =>
          obtain ⟨s,hs⟩ := exists_precedes_swap hv hw hr
          simp [strictCompare_of_precedes hr hs]

/-! ## Where the directions part -/

/-- The order comes down to two dictionaries of which equality fails in one direction only. -/
def OneSided (v w : Value) : Prop :=
  v.kind ≠ .dict ∧ ∃ p q, Crux v w p q ∧ p.kind = .dict ∧ q.kind = .dict ∧
    ¬ (Falters p q ↔ Falters q p)

theorem Breaks.kind_ne (h : Breaks v w) (hv : v.WellFormed) (hw : w.WellFormed) :
    w.kind ≠ .dict := by
  intro hd
  have hnone := precedes_of_dict v hd
  rw [h.precedes_eq hv hw] at hnone
  cases hnone

theorem oneSided_of_breaks (hv : v.WellFormed) (hw : w.WellFormed) (h : Breaks v w)
    (h' : ¬ Breaks w v) : OneSided v w := by
  have hd := h.kind_ne hv hw
  obtain ⟨p,q,hc,hclash | ⟨hp,hq,hpq⟩⟩ := h.exists_crux
  · exact absurd ⟨hd,q,p,hc.symm hv hw,Or.inl hclash.symm⟩ h'
  · have hback := breaks_iff_of_crux hw hv (hc.symm hv hw) hd hq
    exact ⟨h.1,p,q,hc,hp,hq,fun hboth => h' (hback.mpr (hboth.mp hpq))⟩

theorem OneSided.kind_ne (h : OneSided v w) : w.kind ≠ .dict := by
  obtain ⟨hd,p,q,hc,hp,-⟩ := h
  cases hc with
  | itself => exact absurd hp hd
  | list first rest => exact nofun
  | tuple first rest => exact nofun

theorem OneSided.symm (h : OneSided v w) (hv : v.WellFormed) (hw : w.WellFormed) :
    OneSided w v := by
  have hd := h.kind_ne
  obtain ⟨-,p,q,hc,hp,hq,hpq⟩ := h
  exact ⟨hd,q,p,hc.symm hv hw,hq,hp,fun hboth => hpq hboth.symm⟩

/-- The order fails in one direction only just where it is one-sided. -/
theorem oneSided_iff (hv : v.WellFormed) (hw : w.WellFormed) :
    OneSided v w ↔ ¬ (Breaks v w ↔ Breaks w v) := by
  constructor
  · intro h
    have hd := h.kind_ne
    obtain ⟨hd',p,q,hc,hp,hq,hpq⟩ := h
    rw [breaks_iff_of_crux hv hw hc hd' hp,breaks_iff_of_crux hw hv (hc.symm hv hw) hd hq]
    exact hpq
  · intro h
    by_cases hb : Breaks v w
    · exact oneSided_of_breaks hv hw hb fun hb' => h (iff_of_true hb hb')
    · by_cases hb' : Breaks w v
      · exact (oneSided_of_breaks hw hv hb' hb).symm hw hv
      · exact absurd (iff_of_false hb hb') h

theorem exists_precedes (hv : v.WellFormed) (hw : w.WellFormed) (h : ¬ Breaks v w) :
    ∃ r, v.precedes w = .ok r := by
  cases hr : v.precedes w with
  | ok r => exact ⟨r,rfl⟩
  | error f => exact absurd ((precedes_eq_error_iff hv hw).mp hr).2 h

theorem strictCompare_swap (hv : v.WellFormed) (hw : w.WellFormed) (h : ¬ Breaks v w)
    (h' : ¬ Breaks w v) : w.strictCompare v = (v.strictCompare w).map (Option.map Neg.neg) := by
  obtain ⟨r,hr⟩ := exists_precedes hv hw h
  obtain ⟨s,hs⟩ := exists_precedes hw hv h'
  rw [strictCompare_of_precedes hr hs,strictCompare_of_precedes hs hr,
    threeWay_swap (precedes_swap hv hw hr hs)]
  rfl

theorem strictCompare_of_breaks (hv : v.WellFormed) (hw : w.WellFormed) (h : Breaks v w) :
    v.strictCompare w = .error .noResult :=
  (strictCompare_eq_error_iff hv hw).mpr ⟨rfl,h⟩

theorem exists_strictCompare (hv : v.WellFormed) (hw : w.WellFormed) (h : ¬ Breaks v w) :
    ∃ o, v.strictCompare w = .ok o := by
  cases ho : v.strictCompare w with
  | ok o => exact ⟨o,rfl⟩
  | error f => exact absurd ((strictCompare_eq_error_iff hv hw).mp ho).2 h

/-- Comparison changes its sign with the direction, unless it fails in one of them only. -/
theorem strictCompare_swap_iff (hv : v.WellFormed) (hw : w.WellFormed) :
    w.strictCompare v = (v.strictCompare w).map (Option.map Neg.neg) ↔ ¬ OneSided v w := by
  rw [oneSided_iff hv hw,not_not]
  by_cases h : Breaks v w
  · by_cases h' : Breaks w v
    · simp [strictCompare_of_breaks hv hw h,strictCompare_of_breaks hw hv h',h,h',Except.map]
    · obtain ⟨o,ho⟩ := exists_strictCompare hw hv h'
      simp [strictCompare_of_breaks hv hw h,ho,h,h',Except.map]
  · by_cases h' : Breaks w v
    · obtain ⟨o,ho⟩ := exists_strictCompare hv hw h
      simp [strictCompare_of_breaks hw hv h',ho,h,h',Except.map]
    · simp [strictCompare_swap hv hw h h',h,h']

/-- Where the directions part, one of them fails and the other one finds no order. -/
theorem strictCompare_of_oneSided (hv : v.WellFormed) (hw : w.WellFormed) (h : OneSided v w) :
    v.strictCompare w = .error .noResult ∧ w.strictCompare v = .ok none ∨
      v.strictCompare w = .ok none ∧ w.strictCompare v = .error .noResult := by
  have hparts := (oneSided_iff hv hw).mp h
  have hnone {x y : Value} (hx : x.WellFormed) (hy : y.WellFormed) (h : OneSided x y)
      (hb : ¬ Breaks x y) : x.strictCompare y = .ok none := by
    obtain ⟨r,hr⟩ := exists_precedes hx hy hb
    obtain ⟨hd,p,q,hc,hp,-⟩ := h
    have hdicts := hr
    rw [← standing_eq_precedes hx hy hd,hc.standing_eq,standing_dicts hp] at hdicts
    cases hpq : p.equal q with
    | error f => simp [hpq,Except.map] at hdicts
    | ok c =>
        rw [hpq] at hdicts
        cases hdicts
        rw [strictCompare,hr]
        rfl
  by_cases hb : Breaks v w
  · have hb' : ¬ Breaks w v := fun hb' => hparts (iff_of_true hb hb')
    exact Or.inl ⟨strictCompare_of_breaks hv hw hb,hnone hw hv (h.symm hv hw) hb'⟩
  · have hb' : Breaks w v := by
      by_contra hb'
      exact hparts (iff_of_false hb hb')
    exact Or.inr ⟨hnone hv hw h hb,strictCompare_of_breaks hw hv hb'⟩

end

end Value

end Vetting
