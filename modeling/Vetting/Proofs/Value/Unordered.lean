import Vetting.Proofs.Value.Comparison

/-!
# Values that no order holds of

A comparison that finds neither value before the other says nothing about their being equal. A
NaN comes neither before nor after a number, and of two sets neither may be part of the other.
These, and lists and tuples that come down to them, are all the values that compare as if they
were equal without being so.
-/
namespace Vetting
open Number

namespace Value

/-- Every value of one row equals one of another. -/
def Part (xs ys : List Value) : Prop := ∀ x ∈ xs, ∃ y ∈ ys, x.Equals y

/-- A NaN and a number, or two sets of which neither is part of the other. -/
inductive Incomparable : Value → Value → Prop
  | numbers {v w : Value} {a b : Number} (hv : v.number? = some a) (hw : w.number? = some b)
      (h : v.isNaN = true ∨ w.isNaN = true) : Incomparable v w
  | sets {xs ys : List Value} (h : ¬ Part xs ys) (h' : ¬ Part ys xs) :
      Incomparable (.set xs) (.set ys)

/-- The order comes down to values without an order, although their kinds have one. -/
def Unordered (v w : Value) : Prop := ∃ p q, Crux v w p q ∧ Incomparable p q

section
variable {v w x y p q : Value} {xs ys : List Value} {a b : Number} {r s : Option Bool}

/-! ## Sets -/

theorem containedIn_iff (hx : ∀ x ∈ xs, x.isHashable = true)
    (hy : ∀ y ∈ ys, y.isHashable = true) :
    ∃ c, containedIn xs ys = .ok c ∧ (c = true ↔ Part xs ys) := by
  refine ⟨_,containedIn_eq hx hy,?_⟩
  simp [Part,sameKey_iff]

theorem precedes_set (hx : ∀ x ∈ xs, x.isHashable = true) (hy : ∀ y ∈ ys, y.isHashable = true) :
    ∃ c, (Value.set xs).precedes (.set ys) = .ok (some c) ∧
      (c = true ↔ xs.length < ys.length ∧ Part xs ys) := by
  obtain ⟨c,hc,hpart⟩ := containedIn_iff hx hy
  rw [precedes,hc]
  by_cases hlen : xs.length < ys.length
  · exact ⟨c,by rw [if_pos hlen]; rfl,by simp [hlen,hpart]⟩
  · exact ⟨false,by rw [if_neg hlen],by simp [hlen]⟩

/-- A set that is part of another one has no more members. -/
theorem Part.length_le (h : Part xs ys) (hs : (Value.set xs).WellFormed) :
    xs.length ≤ ys.length := by
  cases hs with
  | set hk hd => exact length_le_of_related (pairwise_not_equals hk hd) h
  | scalar hs => cases hs

/-! ## Values that are equal -/

theorem precedes_of_equals (hv : v.WellFormed) (hw : w.WellFormed) (h : v.Equals w) :
    v.precedes w = .ok none ∨ v.precedes w = .ok (some false) := by
  cases hv with
  | scalar hs =>
      rcases number?_or_mark? hs with ⟨a,ha⟩ | ⟨m,hm⟩
      · obtain ⟨b,hb,hab⟩ := (equals_iff_of_number? ha).mp h
        exact Or.inr (precedes_of_order? ha hb hab)
      · have hn := (equals_iff_of_mark? hm).mp h
        rw [precedes_of_mark? hm,hn,Option.bind_some]
        have hself := Mark.below?_swap m m
        cases hb : m.below? m with
        | none => exact Or.inl rfl
        | some c => cases c <;> simp_all
  | @list xs hx =>
      cases w with
      | list ys =>
          obtain ⟨hlen,hitems⟩ := equals_list_iff.mp h
          exact Or.inr (by simp [precedes,precedesItems_of_equalItems hitems,hlen])
      | _ => simp [Equals,equal] at h
  | @tuple xs hx =>
      cases w with
      | tuple ys =>
          obtain ⟨hlen,hitems⟩ := equals_tuple_iff.mp h
          exact Or.inr (by simp [precedes,precedesItems_of_equalItems hitems,hlen])
      | _ => simp [Equals,equal] at h
  | @set xs hk hd =>
      cases w with
      | set ys =>
          have hlen := ((equals_set_iff hk hw.members).mp h).1
          obtain ⟨c,hc,hpart⟩ := precedes_set hk hw.members
          cases c with
          | true =>
              have hlt := (hpart.mp rfl).1
              omega
          | false => exact Or.inr hc
      | _ => simp [Equals,equal] at h
  | dict => exact Or.inl (by rw [precedes])

theorem strictCompare_of_equals (hv : v.WellFormed) (hw : w.WellFormed) (h : v.Equals w) :
    v.strictCompare w = .ok none ∨ v.strictCompare w = .ok (some 0) := by
  rcases precedes_of_equals hv hw h with hr | hr
  · rcases precedes_of_equals hw hv (h.symm hv hw) with hs | hs
    · exact Or.inl (strictCompare_of_precedes hr hs)
    · exact Or.inl (strictCompare_of_precedes hr hs)
  · rcases precedes_of_equals hw hv (h.symm hv hw) with hs | hs
    · exact Or.inl (strictCompare_of_precedes hr hs)
    · exact Or.inr (strictCompare_of_precedes hr hs)

/-! ## Values that are not -/

theorem order?_of_isNaN (ha : v.number? = some a) (hb : w.number? = some b) :
    a.order? b = none ↔ v.isNaN = true ∨ w.isNaN = true := by
  rw [order?_eq_none_iff,isNaN_of_number? ha,isNaN_of_number? hb]

theorem Incomparable.not_equals (h : Incomparable v w) (hv : v.WellFormed) (hw : w.WellFormed) :
    ¬ v.Equals w := by
  intro he
  cases h with
  | numbers ha hb h =>
      have hab := order?_of_equals ha hb he
      rw [(order?_of_isNaN ha hb).mpr h] at hab
      cases hab
  | sets h h' => exact h ((equals_set_iff hv.members hw.members).mp he).2

theorem Unordered.not_equals (h : Unordered v w) (hv : v.WellFormed) (hw : w.WellFormed) :
    ¬ v.Equals w := by
  intro he
  obtain ⟨p,q,hc,hpq⟩ := h
  obtain ⟨rfl,rfl⟩ := hc.eq_of_equals he
  exact hpq.not_equals hv hw he

theorem Incomparable.symm (h : Incomparable v w) : Incomparable w v := by
  cases h with
  | numbers ha hb h => exact .numbers hb ha h.symm
  | sets h h' => exact .sets h' h

theorem Unordered.symm (h : Unordered v w) (hv : v.WellFormed) (hw : w.WellFormed) :
    Unordered w v := by
  obtain ⟨p,q,hc,hpq⟩ := h
  exact ⟨q,p,hc.symm hv hw,hpq.symm⟩

theorem Incomparable.kind_ne (h : Incomparable v w) : v.kind ≠ .dict := by
  cases h with
  | numbers ha hb h =>
      intro hd
      cases v <;> cases hd
      cases ha
  | sets h h' => exact nofun

/-- Of values that no order holds of neither comes before the other, if that can be asked. -/
theorem Unordered.precedes_eq (h : Unordered v w) (hv : v.WellFormed) (hw : w.WellFormed)
    (hb : ¬ Breaks v w) : v.precedes w = .ok (some false) := by
  obtain ⟨p,q,hc,hpq⟩ := h
  obtain ⟨hp,hq⟩ := hc.wellFormed hv hw
  have hd : v.kind ≠ .dict := by
    cases hc with
    | itself => exact hpq.kind_ne
    | list first rest => exact nofun
    | tuple first rest => exact nofun
  rw [← standing_eq_precedes hv hw hd,hc.standing_eq,standing_eq_precedes hp hq hpq.kind_ne]
  cases hpq with
  | numbers ha hb' h =>
      refine (precedes_of_order?_none ha hb' ((order?_of_isNaN ha hb').mpr h)).resolve_left ?_
      exact fun hclash => hb ⟨hd,_,_,hc,Or.inl hclash⟩
  | sets h h' =>
      obtain ⟨c,hc,hpart⟩ := precedes_set hp.members hq.members
      cases c with
      | true => exact absurd (hpart.mp rfl).2 h
      | false => exact hc

theorem Unordered.strictCompare_eq (h : Unordered v w) (hv : v.WellFormed) (hw : w.WellFormed)
    (hb : ¬ Breaks v w) : v.strictCompare w = .ok (some 0) := by
  have hr := h.precedes_eq hv hw hb
  obtain ⟨s,hs⟩ := exists_precedes_swap hv hw hr
  have hb' : ¬ Breaks w v := fun hb' => by simp [hb'.precedes_eq hw hv] at hs
  exact strictCompare_of_precedes hr ((h.symm hv hw).precedes_eq hw hv hb')

/-! ## Values of which neither comes first -/

/-- Neither of two values comes before the other, and their kinds have an order. -/
def Level (v w : Value) : Prop := v.precedes w = .ok (some false) ∧ w.precedes v = .ok (some false)

theorem strictCompare_eq_zero_iff : v.strictCompare w = .ok (some 0) ↔ Level v w := by
  constructor
  · intro h
    rw [strictCompare] at h
    cases hr : v.precedes w with
    | error f => simp [hr,Bind.bind,Except.bind] at h
    | ok r =>
        rcases r with - | - | -
        · simp [hr,Bind.bind,Except.bind] at h
        · cases hs : w.precedes v with
          | error f => simp [hr,hs,Bind.bind,Except.bind] at h
          | ok s => rcases s with - | - | - <;> simp_all [Level,Bind.bind,Except.bind]
        · simp [hr,Bind.bind,Except.bind] at h
  · intro h
    exact strictCompare_of_precedes h.1 h.2

theorem equals_or_unordered_items (hx : ∀ x ∈ xs, x.WellFormed) (hy : ∀ y ∈ ys, y.WellFormed)
    (ih : ∀ x ∈ xs, ∀ y ∈ ys, Level x y → x.Equals y ∨ Unordered x y)
    (h : precedesItems xs ys = .ok (some false)) (h' : precedesItems ys xs = .ok (some false)) :
    xs.length = ys.length ∧ equalItems xs ys = .ok true ∨
      ∃ x y, FirstUnequal xs ys x y ∧ Unordered x y := by
  rcases equalItems_or_firstUnequal xs ys with hitems | ⟨x,y,first⟩
  · have hitems' := equalItems_symm (fun x hm y hn => Equals.symm (hx x hm) (hy y hn)) hitems
    rw [precedesItems_of_equalItems hitems] at h
    rw [precedesItems_of_equalItems hitems'] at h'
    simp only [Except.ok.injEq,Option.some.injEq,decide_eq_false_iff_not] at h h'
    exact Or.inl ⟨by omega,hitems⟩
  · have first' := first.symm fun x hm y hn => equals_comm (hx x hm) (hy y hn)
    rw [first.standing_eq,standing_eq_ok_iff] at h
    rw [first'.standing_eq,standing_eq_ok_iff] at h'
    have hxy := (ih x first.mem.1 y first.mem.2 ⟨h.2,h'.2⟩).resolve_left first.not_equals
    exact Or.inr ⟨x,y,first,hxy⟩

theorem Level.equals_or_unordered (h : Level v w) (hv : v.WellFormed) (hw : w.WellFormed) :
    v.Equals w ∨ Unordered v w := by
  induction hv generalizing w with
  | @scalar v hs =>
      obtain ⟨hr,hs'⟩ := h
      rcases number?_or_mark? hs with ⟨a,ha⟩ | ⟨m,hm⟩
      · cases hb : w.number? with
        | none => simp [precedes_of_number? ha,precedesNumber,hb] at hr
        | some b =>
            cases ho : a.order? b with
            | none =>
                have hnan := (order?_of_isNaN ha hb).mp ho
                exact Or.inr ⟨v,w,.itself,.numbers ha hb hnan⟩
            | some o =>
                have ho' : b.order? a = some o.swap := by
                  rw [order?_swap,ho]
                  rfl
                rw [precedes_of_order? ha hb ho] at hr
                rw [precedes_of_order? hb ha ho'] at hs'
                refine Or.inl ((equals_iff_of_number? ha).mpr ⟨b,hb,?_⟩)
                cases o <;> simp_all
      · rw [precedes_of_mark? hm] at hr
        cases hn : w.mark? with
        | none => simp [hn] at hr
        | some n =>
            rw [precedes_of_mark? hn,hm] at hs'
            simp only [hn,Option.bind_some,Except.ok.injEq] at hr hs'
            rw [Mark.eq_of_below? hr hs'] at hm
            exact Or.inl ((equals_iff_of_mark? hm).mpr hn)
  | @list xs hx ih =>
      cases w with
      | list ys =>
          have hy := hw.items (Or.inl rfl)
          simp only [Level,precedes] at h
          rcases equals_or_unordered_items hx hy (fun x hm y hn h => ih x hm h (hy y hn)) h.1 h.2
            with hitems | ⟨x,y,first,p,q,hc,hpq⟩
          · exact Or.inl (equals_list_iff.mpr hitems)
          · exact Or.inr ⟨p,q,.list first hc,hpq⟩
      | _ => simp [Level,precedes] at h
  | @tuple xs hx ih =>
      cases w with
      | tuple ys =>
          have hy := hw.items (Or.inr rfl)
          simp only [Level,precedes] at h
          rcases equals_or_unordered_items hx hy (fun x hm y hn h => ih x hm h (hy y hn)) h.1 h.2
            with hitems | ⟨x,y,first,p,q,hc,hpq⟩
          · exact Or.inl (equals_tuple_iff.mpr hitems)
          · exact Or.inr ⟨p,q,.tuple first hc,hpq⟩
      | _ => simp [Level,precedes] at h
  | @set xs hk hd =>
      have hs : (Value.set xs).WellFormed := .set hk hd
      cases w with
      | set ys =>
          obtain ⟨c,hc,hcpart⟩ := precedes_set hk hw.members
          obtain ⟨d,hd,hdpart⟩ := precedes_set hw.members hk
          rw [Level,hc,hd] at h
          have hxy : ¬ (xs.length < ys.length ∧ Part xs ys) := by
            rw [← hcpart]
            simpa using h.1
          have hyx : ¬ (ys.length < xs.length ∧ Part ys xs) := by
            rw [← hdpart]
            simpa using h.2
          by_cases hpart : Part xs ys
          · have hle := hpart.length_le hs
            have hlen : xs.length = ys.length := by
              by_contra hne
              exact hxy ⟨by omega,hpart⟩
            exact Or.inl ((equals_set_iff hk hw.members).mpr ⟨hlen,hpart⟩)
          · by_cases hpart' : Part ys xs
            · have hle := hpart'.length_le hw
              have hlen : ys.length = xs.length := by
                by_contra hne
                exact hyx ⟨by omega,hpart'⟩
              have heq := (equals_set_iff hw.members hk).mpr ⟨hlen,hpart'⟩
              exact Or.inl (heq.symm hw hs)
            · exact Or.inr ⟨_,_,.itself,.sets hpart hpart'⟩
      | _ => simp [Level,precedes] at h
  | dict => simp [Level,precedes] at h

end

end Value

end Vetting
