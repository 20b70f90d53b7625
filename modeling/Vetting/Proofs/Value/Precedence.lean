import Mathlib.Data.Char
import Mathlib.Data.List.Lex
import Vetting.Proofs.Value.Faltering

/-!
# What an order comes down to

The order of two lists or tuples comes down to their first unequal items, and if these are
lists or tuples again, to the first unequal items of theirs. So it is decided by two values on
the way down: two numbers, of which a NaN has no place among the others; two sets, of which
neither may be part of the other; two dictionaries, which have no order at all but are asked
whether they are equal first.
-/
namespace Vetting
open Number

/-! ## Rows of keys, bytes and characters -/

theorem keyBelow_eq {a b : List Int} (hlen : a.length = b.length) :
    keyBelow a b = decide (a < b) := by
  induction a generalizing b with
  | nil =>
      rw [List.eq_nil_of_length_eq_zero hlen.symm]
      rfl
  | cons x xs ih =>
      cases b with
      | nil => cases hlen
      | cons y ys =>
          have hrest := ih (Nat.succ.inj hlen)
          by_cases hxy : x = y
          · simp [keyBelow,hxy,hrest]
          · simp [keyBelow,hxy,List.cons_lt_cons_iff]

theorem bytesBelow_eq (s t : List UInt8) : bytesBelow s t = decide (s < t) := by
  induction s generalizing t with
  | nil => cases t <;> simp [bytesBelow]
  | cons x xs ih =>
      cases t with
      | nil => simp [bytesBelow]
      | cons y ys =>
          by_cases hxy : x = y
          · simp [bytesBelow,hxy,ih ys]
          · simp [bytesBelow,hxy,List.cons_lt_cons_iff]

theorem textBelow_eq (c d : List Char) : textBelow c d = decide (c < d) := by
  induction c generalizing d with
  | nil => cases d <;> simp [textBelow]
  | cons x xs ih =>
      cases d with
      | nil => simp [textBelow]
      | cons y ys =>
          have hlt : x.toNat < y.toNat ↔ x < y := Iff.rfl
          by_cases hxy : x = y
          · simp [textBelow,hxy,ih ys]
          · simp [textBelow,hxy,hlt,List.cons_lt_cons_iff]

namespace Value

section
variable {v w x y p q : Value} {xs ys : List Value} {a b : Number} {f : Fault} {r s : Option Bool}

/-! ## Scalars -/

theorem precedes_of_number? (h : v.number? = some a) (w : Value) :
    v.precedes w = precedesNumber a w := by
  cases v <;> simp only [number?,Option.some.injEq,reduceCtorEq] at h <;> rw [precedes,h]

theorem precedes_of_order? {o : Ordering} (ha : v.number? = some a) (hb : w.number? = some b)
    (h : a.order? b = some o) : v.precedes w = .ok (some (o == .lt)) := by
  rw [precedes_of_number? ha,precedesNumber,hb]
  simp [Number.precedes,h,Except.map]

/-- Numbers without an order, one of which is a decimal: it is an error to ask for one. -/
def Clash (v w : Value) : Prop :=
  ∃ a b, v.number? = some a ∧ w.number? = some b ∧ a.order? b = none ∧
    (v.kind = .decimal ∨ w.kind = .decimal)

theorem Clash.precedes_eq (h : Clash v w) : v.precedes w = .error .noResult := by
  obtain ⟨a,b,ha,hb,hnone,hkind⟩ := h
  rw [precedes_of_number? ha,precedesNumber,hb]
  rcases hkind with hkind | hkind
  · cases v <;> cases hkind
    cases ha
    simp [Number.precedes,hnone,Except.map]
  · cases w <;> cases hkind
    cases hb
    cases a <;> simp [Number.precedes,hnone,Except.map]

theorem precedes_of_order?_none (ha : v.number? = some a) (hb : w.number? = some b)
    (h : a.order? b = none) : Clash v w ∨ v.precedes w = .ok (some false) := by
  by_cases hkind : v.kind = .decimal ∨ w.kind = .decimal
  · exact Or.inl ⟨a,b,ha,hb,h,hkind⟩
  · refine Or.inr ?_
    rw [precedes_of_number? ha,precedesNumber,hb]
    cases v <;> cases ha <;> cases w <;> cases hb <;>
      simp_all [kind,Number.precedes,Except.map]

theorem Clash.symm (h : Clash v w) : Clash w v := by
  obtain ⟨a,b,ha,hb,hnone,hkind⟩ := h
  refine ⟨b,a,hb,ha,?_,hkind.symm⟩
  rw [order?_swap,hnone]
  rfl

theorem kind_of_signal (ha : v.number? = some a) (h : a.position = .signal) :
    v.kind = .decimal := by
  obtain ⟨s,p,rfl⟩ := position_eq_signal_iff.mp h
  cases v <;> first | rfl | cases ha

theorem clash_of_signal (ha : v.number? = some a) (hb : w.number? = some b)
    (h : a.position = .signal ∨ b.position = .signal) : Clash v w := by
  refine ⟨a,b,ha,hb,?_,h.imp (kind_of_signal ha) (kind_of_signal hb)⟩
  rw [order?_eq_none_iff]
  rcases h with h | h
  · exact Or.inl (by rw [h,Position.isNaN])
  · exact Or.inr (by rw [h,Position.isNaN])

/-- Whether what goes by one mark comes before what goes by another. -/
def Mark.below? : Mark → Mark → Option Bool
  | .date d, .date e => some (decide (d.toKey < e.toKey))
  | .moment z k, .moment y l => if z = y then some (decide (k < l)) else none
  | .bytes s, .bytes t => some (decide (s < t))
  | .text s, .text t => some (decide (s.toList < t.toList))
  | _, _ => none

theorem precedes_of_mark? {m : Mark} (h : v.mark? = some m) (w : Value) :
    v.precedes w = .ok (w.mark?.bind m.below?) := by
  cases v with
  | null =>
      cases h
      cases w <;> simp [precedes,mark?,Mark.below?]
  | date d =>
      cases h
      cases w <;> simp [precedes,mark?,Mark.below?]
      exact keyBelow_eq rfl
  | moment t =>
      cases h
      cases w with
      | moment u =>
          have hlen : t.toKey.length = u.toKey.length := by simp [Moment.toKey]
          have hkey := keyBelow_eq hlen
          rw [precedes,hkey]
          simp only [mark?,Option.bind_some,Mark.below?]
          split <;> rfl
      | _ => simp [precedes,mark?,Mark.below?]
  | bytes bs =>
      cases h
      cases w <;> simp [precedes,mark?,Mark.below?,bytesBelow_eq]
  | text s =>
      cases h
      cases w <;> simp [precedes,mark?,Mark.below?,textBelow_eq]
  | _ => cases h

theorem Mark.below?_swap (m n : Mark) : (m.below? n).isSome = (n.below? m).isSome ∧
    ¬ (m.below? n = some true ∧ n.below? m = some true) := by
  cases m with
  | null => simp [below?]
  | date d =>
      cases n <;> simp [below?]
      exact fun h => le_of_lt h
  | moment z k =>
      cases n with
      | moment y l =>
          by_cases hz : z = y
          · simp [below?,hz]
            exact fun h => le_of_lt h
          · simp [below?,hz,Ne.symm hz]
      | _ => simp [below?]
  | bytes s =>
      cases n <;> simp [below?]
      exact fun h => List.le_of_lt h
  | text s =>
      cases n <;> simp [below?]
      exact fun h => le_of_lt h

/-- Scalars of which neither comes before the other are the same. -/
theorem Mark.eq_of_below? {m n : Mark} (h : m.below? n = some false)
    (h' : n.below? m = some false) : m = n := by
  cases m with
  | null => cases h
  | date d =>
      cases n with
      | date e =>
          simp only [below?,Option.some.injEq,decide_eq_false_iff_not] at h h'
          have hkey := ((lt_trichotomy d.toKey e.toKey).resolve_left h).resolve_right h'
          simp only [Date.toKey,List.cons.injEq,Nat.cast_inj,and_true] at hkey
          rw [date.injEq,Date.mk.injEq]
          exact hkey
      | _ => cases h
  | moment z k =>
      cases n with
      | moment y l =>
          by_cases hz : z = y
          · simp only [below?,hz,if_true,Option.some.injEq,decide_eq_false_iff_not] at h h'
            rw [hz,((lt_trichotomy k l).resolve_left h).resolve_right h']
          · simp [below?,hz] at h
      | _ => cases h
  | bytes s =>
      cases n with
      | bytes t =>
          simp only [below?,Option.some.injEq,decide_eq_false_iff_not] at h h'
          rw [Std.le_antisymm (Std.not_lt.mp h') (Std.not_lt.mp h)]
      | _ => cases h
  | text s =>
      cases n with
      | text t =>
          simp only [below?,Option.some.injEq,decide_eq_false_iff_not] at h h'
          have hst := ((lt_trichotomy s.toList t.toList).resolve_left h).resolve_right h'
          rw [String.ext hst]
      | _ => cases h

/-! ## The order after the equality -/

/-- The order, asked for after the equality. -/
def standing (v w : Value) : Except Fault (Option Bool) := v.equal w >>= fun _ => v.precedes w

theorem standing_of_equal_ok {b : Bool} (h : v.equal w = .ok b) :
    v.standing w = v.precedes w := by
  rw [standing,h]
  rfl

theorem standing_of_equal_error (h : v.equal w = .error f) : v.standing w = .error f := by
  rw [standing,h]
  rfl

theorem standing_eq_ok_iff :
    v.standing w = .ok r ↔ (∃ b, v.equal w = .ok b) ∧ v.precedes w = .ok r := by
  rw [standing]
  cases v.equal w <;> simp [Bind.bind,Except.bind]

theorem FirstUnequal.standing_eq (h : FirstUnequal xs ys x y) :
    precedesItems xs ys = x.standing y :=
  h.precedesItems_eq

theorem standing_list_of_firstUnequal (h : FirstUnequal xs ys x y) :
    (Value.list xs).standing (.list ys) = x.standing y := by
  rw [standing,equal,precedes,h.equalItems_eq,h.standing_eq,standing]
  split
  · cases x.equal y <;> rfl
  · rfl

theorem standing_tuple_of_firstUnequal (h : FirstUnequal xs ys x y) :
    (Value.tuple xs).standing (.tuple ys) = x.standing y := by
  rw [standing,equal_tuple_of_firstUnequal h,precedes,h.standing_eq,standing]
  cases x.equal y <;> rfl

/-- But for dictionaries, which have no order, the order fails wherever the equality does. -/
theorem standing_eq_precedes (hv : v.WellFormed) (hw : w.WellFormed) (hd : v.kind ≠ .dict) :
    v.standing w = v.precedes w := by
  rcases equal_cases v w with h | h | ⟨f,h⟩
  · exact standing_of_equal_ok h
  · exact standing_of_equal_ok h
  · rw [standing_of_equal_error h]
    have hs := ((equal_eq_error_iff hv hw).mp h)
    rw [hs.1]
    cases hs.2 with
    | number ha hb hsignal => exact ((clash_of_signal ha hb hsignal).precedes_eq).symm
    | list hlen first hxy =>
        rw [precedes,first.standing_eq,standing_of_equal_error]
        exact hxy.equal_eq (hv.items (Or.inl rfl) _ first.mem.1)
          (hw.items (Or.inl rfl) _ first.mem.2)
    | tuple first hxy =>
        rw [precedes,first.standing_eq,standing_of_equal_error]
        exact hxy.equal_eq (hv.items (Or.inr rfl) _ first.mem.1)
          (hw.items (Or.inr rfl) _ first.mem.2)
    | dict => exact absurd rfl hd

/-! ## What it comes down to -/

/-- Two values that the order of two others comes down to. -/
inductive Crux : Value → Value → Value → Value → Prop
  | itself {v w : Value} : Crux v w v w
  | list {xs ys : List Value} {x y p q : Value} (first : FirstUnequal xs ys x y)
      (rest : Crux x y p q) : Crux (.list xs) (.list ys) p q
  | tuple {xs ys : List Value} {x y p q : Value} (first : FirstUnequal xs ys x y)
      (rest : Crux x y p q) : Crux (.tuple xs) (.tuple ys) p q

namespace Crux
variable {t u : Value}

theorem standing_eq (h : Crux v w p q) : v.standing w = p.standing q := by
  induction h with
  | itself => rfl
  | list first _ ih => rw [standing_list_of_firstUnequal first,ih]
  | tuple first _ ih => rw [standing_tuple_of_firstUnequal first,ih]

theorem trans (h : Crux v w p q) (h' : Crux p q t u) : Crux v w t u := by
  induction h with
  | itself => exact h'
  | list first _ ih => exact .list first (ih h')
  | tuple first _ ih => exact .tuple first (ih h')

theorem symm (h : Crux v w p q) (hv : v.WellFormed) (hw : w.WellFormed) : Crux w v q p := by
  induction h with
  | itself => exact .itself
  | list first _ ih =>
      have hx := hv.items (Or.inl rfl)
      have hy := hw.items (Or.inl rfl)
      have hfirst := first.symm fun x hm y hn => equals_comm (hx x hm) (hy y hn)
      exact .list hfirst (ih (hx _ first.mem.1) (hy _ first.mem.2))
  | tuple first _ ih =>
      have hx := hv.items (Or.inr rfl)
      have hy := hw.items (Or.inr rfl)
      have hfirst := first.symm fun x hm y hn => equals_comm (hx x hm) (hy y hn)
      exact .tuple hfirst (ih (hx _ first.mem.1) (hy _ first.mem.2))

theorem wellFormed (h : Crux v w p q) (hv : v.WellFormed) (hw : w.WellFormed) :
    p.WellFormed ∧ q.WellFormed := by
  induction h with
  | itself => exact ⟨hv,hw⟩
  | list first _ ih =>
      exact ih (hv.items (Or.inl rfl) _ first.mem.1) (hw.items (Or.inl rfl) _ first.mem.2)
  | tuple first _ ih =>
      exact ih (hv.items (Or.inr rfl) _ first.mem.1) (hw.items (Or.inr rfl) _ first.mem.2)

theorem eq_of_equals (h : Crux v w p q) (he : v.Equals w) : v = p ∧ w = q := by
  cases h with
  | itself => exact ⟨rfl,rfl⟩
  | @list xs ys x y p q first rest =>
      have hitems := (equals_list_iff.mp he).2
      rw [first.equalItems_eq] at hitems
      exact absurd hitems first.not_equals
  | @tuple xs ys x y p q first rest =>
      have hitems := (equals_tuple_iff.mp he).2
      rw [first.equalItems_eq] at hitems
      exact absurd hitems first.not_equals

end Crux

theorem Falters.exists_crux (h : Falters v w) :
    ∃ p q, Crux v w p q ∧ (Clash p q ∨ p.kind = .dict ∧ q.kind = .dict ∧ Falters p q) := by
  induction h with
  | number ha hb h => exact ⟨_,_,.itself,Or.inl (clash_of_signal ha hb h)⟩
  | list _ first _ ih =>
      obtain ⟨p,q,hc,h⟩ := ih
      exact ⟨p,q,.list first hc,h⟩
  | tuple first _ ih =>
      obtain ⟨p,q,hc,h⟩ := ih
      exact ⟨p,q,.tuple first hc,h⟩
  | dict hlen first h _ => exact ⟨_,_,.itself,Or.inr ⟨rfl,rfl,.dict hlen first h⟩⟩

end

end Value

end Vetting
