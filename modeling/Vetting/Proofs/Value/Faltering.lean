import Vetting.Proofs.Value.Symmetry
import Vetting.Value.Order

/-!
# Where equality has no answer

Equality fails only where it comes to a signalling NaN and a number. Lists and tuples come to
their first unequal items, and nothing behind these is looked at; dictionaries come to the first
entry whose key is in the other one with a value that is not equal. As the entries are taken in
the order of the dictionary on the left, it can fail in one direction and have an answer in the
other.
-/
namespace Vetting
open Number

namespace Value

/-! ## The first unequal items -/

/-- The first items at which two rows of values are not equal. -/
inductive FirstUnequal : List Value → List Value → Value → Value → Prop
  | here {x y : Value} {xs ys : List Value} (h : ¬ x.Equals y) :
      FirstUnequal (x :: xs) (y :: ys) x y
  | later {x y p q : Value} {xs ys : List Value} (h : x.Equals y)
      (rest : FirstUnequal xs ys p q) : FirstUnequal (x :: xs) (y :: ys) p q

section
variable {v w x y p q : Value} {xs ys : List Value} {es fs : List (Value × Value)} {f : Fault}

theorem equal_cases (x y : Value) :
    x.Equals y ∨ x.equal y = .ok false ∨ ∃ f, x.equal y = .error f := by
  unfold Equals
  cases x.equal y with
  | error f => exact Or.inr (Or.inr ⟨f,rfl⟩)
  | ok b => cases b <;> simp

namespace FirstUnequal

theorem not_equals (h : FirstUnequal xs ys x y) : ¬ x.Equals y := by
  induction h with
  | here h => exact h
  | later _ _ ih => exact ih

theorem mem (h : FirstUnequal xs ys x y) : x ∈ xs ∧ y ∈ ys := by
  induction h with
  | here h => exact ⟨List.mem_cons_self,List.mem_cons_self⟩
  | later _ _ ih => exact ⟨List.mem_cons_of_mem _ ih.1,List.mem_cons_of_mem _ ih.2⟩

theorem equalItems_eq (h : FirstUnequal xs ys x y) : equalItems xs ys = x.equal y := by
  induction h with
  | @here x y xs ys h =>
      rw [equalItems]
      rcases equal_cases x y with h' | h' | ⟨f,h'⟩
      · exact absurd h' h
      · rw [h']
        rfl
      · rw [h']
        rfl
  | later h _ ih =>
      rw [equalItems,h,← ih]
      rfl

theorem precedesItems_eq (h : FirstUnequal xs ys x y) :
    precedesItems xs ys = x.equal y >>= fun _ => x.precedes y := by
  induction h with
  | @here x y xs ys h =>
      rw [precedesItems]
      rcases equal_cases x y with h' | h' | ⟨f,h'⟩
      · exact absurd h' h
      · rw [h']
        rfl
      · rw [h']
        rfl
  | later h _ ih =>
      rw [precedesItems,h,← ih]
      rfl

theorem symm (h : FirstUnequal xs ys x y)
    (hs : ∀ x ∈ xs, ∀ y ∈ ys, x.Equals y ↔ y.Equals x) : FirstUnequal ys xs y x := by
  induction h with
  | here h =>
      refine .here ?_
      rw [← hs _ List.mem_cons_self _ List.mem_cons_self]
      exact h
  | later h _ ih =>
      refine .later ((hs _ List.mem_cons_self _ List.mem_cons_self).mp h) (ih ?_)
      exact fun x hx y hy => hs x (List.mem_cons_of_mem _ hx) y (List.mem_cons_of_mem _ hy)

end FirstUnequal

theorem equalItems_or_firstUnequal (xs ys : List Value) :
    equalItems xs ys = .ok true ∨ ∃ x y, FirstUnequal xs ys x y := by
  induction xs generalizing ys with
  | nil => exact Or.inl (by rw [equalItems])
  | cons x xs ih =>
      cases ys with
      | nil => exact Or.inl (by rw [equalItems])
      | cons y ys =>
          by_cases h : x.Equals y
          · rcases ih ys with hrest | ⟨p,q,hrest⟩
            · exact Or.inl (equalItems_cons_iff.mpr ⟨h,hrest⟩)
            · exact Or.inr ⟨p,q,.later h hrest⟩
          · exact Or.inr ⟨x,y,.here h⟩

/-- Where no items differ the shorter row comes first. -/
theorem precedesItems_of_equalItems (h : equalItems xs ys = .ok true) :
    precedesItems xs ys = .ok (some (decide (xs.length < ys.length))) := by
  induction xs generalizing ys with
  | nil => cases ys <;> simp [precedesItems]
  | cons x xs ih =>
      cases ys with
      | nil => simp [precedesItems]
      | cons y ys =>
          obtain ⟨hxy,hrest⟩ := equalItems_cons_iff.mp h
          rw [precedesItems,hxy]
          simpa [Bind.bind,Except.bind] using ih hrest

/-! ## The first entry in question -/

/-- The first values under a key of both dictionaries that are not equal, no entry before them
being absent from the other one. -/
inductive FirstEntry (fs : List (Value × Value)) :
    List (Value × Value) → Value → Value → Prop
  | here {k p q : Value} {es : List (Value × Value)} (found : lookup k fs = some q)
      (h : ¬ p.Equals q) : FirstEntry fs ((k,p) :: es) p q
  | later {k v w p q : Value} {es : List (Value × Value)} (found : lookup k fs = some w)
      (h : v.Equals w) (rest : FirstEntry fs es p q) : FirstEntry fs ((k,v) :: es) p q

namespace FirstEntry

theorem mem (h : FirstEntry fs es p q) : (∃ e ∈ es, e.2 = p) ∧ ∃ f ∈ fs, f.2 = q := by
  induction h with
  | here found h =>
      obtain ⟨f,hf,-,hq⟩ := exists_of_lookup found
      exact ⟨⟨_,List.mem_cons_self,rfl⟩,f,hf,hq⟩
  | later _ _ _ ih =>
      obtain ⟨⟨e,he,hp⟩,hq⟩ := ih
      exact ⟨⟨e,List.mem_cons_of_mem _ he,hp⟩,hq⟩

theorem equalEntries_eq (h : FirstEntry fs es p q) (he : ∀ e ∈ es, e.1.isHashable = true)
    (hf : ∀ f ∈ fs, f.1.isHashable = true) : equalEntries es fs = p.equal q := by
  induction h with
  | @here k p q es found h =>
      rw [equalEntries_cons_of_lookup (he _ List.mem_cons_self) hf,found]
      rcases equal_cases p q with h' | h' | ⟨f,h'⟩
      · exact absurd h' h
      · simp [h',Bind.bind,Except.bind]
      · simp [h',Bind.bind,Except.bind]
  | later found h _ ih =>
      rw [equalEntries_cons_of_lookup (he _ List.mem_cons_self) hf,found,
        ← ih fun e hm => he e (List.mem_cons_of_mem _ hm)]
      rw [Equals] at h
      simp [h,Bind.bind,Except.bind]

end FirstEntry

theorem exists_equalEntries_or_firstEntry (he : ∀ e ∈ es, e.1.isHashable = true)
    (hf : ∀ f ∈ fs, f.1.isHashable = true) :
    (∃ b, equalEntries es fs = .ok b) ∨ ∃ p q, FirstEntry fs es p q := by
  induction es with
  | nil => exact Or.inl ⟨true,by rw [equalEntries]⟩
  | cons e es ih =>
      obtain ⟨hhead,hrest⟩ := List.forall_mem_cons.mp he
      rw [equalEntries_cons_of_lookup hhead hf]
      cases hw : lookup e.1 fs with
      | none => exact Or.inl ⟨false,rfl⟩
      | some w =>
          by_cases h : e.2.Equals w
          · rcases ih hrest with ⟨b,hb⟩ | ⟨p,q,hpq⟩
            · refine Or.inl ⟨b,?_⟩
              simpa [show e.2.equal w = .ok true from h,Bind.bind,Except.bind] using hb
            · exact Or.inr ⟨p,q,.later hw h hpq⟩
          · exact Or.inr ⟨e.2,w,.here hw h⟩

/-! ## Failing equality -/

/-- Equality comes to a signalling NaN and a number. -/
inductive Falters : Value → Value → Prop
  | number {v w : Value} {a b : Number} (hv : v.number? = some a) (hw : w.number? = some b)
      (h : a.position = .signal ∨ b.position = .signal) : Falters v w
  | list {xs ys : List Value} {x y : Value} (hlen : xs.length = ys.length)
      (first : FirstUnequal xs ys x y) (h : Falters x y) : Falters (.list xs) (.list ys)
  | tuple {xs ys : List Value} {x y : Value} (first : FirstUnequal xs ys x y)
      (h : Falters x y) : Falters (.tuple xs) (.tuple ys)
  | dict {es fs : List (Value × Value)} {p q : Value} (hlen : es.length = fs.length)
      (first : FirstEntry fs es p q) (h : Falters p q) : Falters (.dict es) (.dict fs)

theorem equal_tuple_of_firstUnequal (h : FirstUnequal xs ys x y) :
    (Value.tuple xs).equal (.tuple ys) = x.equal y := by
  rw [equal,h.equalItems_eq]
  rcases equal_cases x y with h' | h' | ⟨f,h'⟩
  · exact absurd h' h.not_equals
  · rw [h']
    rfl
  · rw [h']
    rfl

theorem Falters.equal_eq (h : Falters v w) (hv : v.WellFormed) (hw : w.WellFormed) :
    v.equal w = .error .noResult := by
  induction h with
  | number ha hb h => simp [equal_of_number? ha,equalsNumber,hb,Number.equal_eq,h]
  | list hlen first h ih =>
      have hx := hv.items (Or.inl rfl) _ first.mem.1
      have hy := hw.items (Or.inl rfl) _ first.mem.2
      rw [equal,if_pos hlen,first.equalItems_eq,ih hx hy]
  | tuple first h ih =>
      have hx := hv.items (Or.inr rfl) _ first.mem.1
      have hy := hw.items (Or.inr rfl) _ first.mem.2
      rw [equal_tuple_of_firstUnequal first,ih hx hy]
  | dict hlen first h ih =>
      obtain ⟨hvalues,hkeys,-⟩ := hv.entries
      obtain ⟨hvalues',hkeys',-⟩ := hw.entries
      obtain ⟨⟨e,he,rfl⟩,f,hf,rfl⟩ := first.mem
      rw [equal,if_pos hlen,first.equalEntries_eq hkeys hkeys',ih (hvalues e he) (hvalues' f hf)]

theorem falters_of_equal_eq (h : v.equal w = .error f) (hv : v.WellFormed)
    (hw : w.WellFormed) : Falters v w := by
  induction hv generalizing w with
  | @scalar v hs =>
      rcases number?_or_mark? hs with ⟨a,ha⟩ | ⟨m,hm⟩
      · rw [equal_of_number? ha,equalsNumber] at h
        cases hb : w.number? with
        | none => simp [hb] at h
        | some b =>
            by_cases hsignal : a.position = .signal ∨ b.position = .signal
            · exact .number ha hb hsignal
            · simp [hb,Number.equal_eq,hsignal] at h
      · simp [equal_of_mark? hm] at h
  | @list xs hx ih =>
      cases w with
      | list ys =>
          rw [equal] at h
          split at h
          · rename_i hlen
            rcases equalItems_or_firstUnequal xs ys with hitems | ⟨x,y,first⟩
            · simp [hitems] at h
            · have hy := hw.items (Or.inl rfl) y first.mem.2
              rw [first.equalItems_eq] at h
              exact .list hlen first (ih x first.mem.1 h hy)
          · cases h
      | _ => simp [equal] at h
  | @tuple xs hx ih =>
      cases w with
      | tuple ys =>
          rcases equalItems_or_firstUnequal xs ys with hitems | ⟨x,y,first⟩
          · simp [equal,hitems,Bind.bind,Except.bind] at h
          · have hy := hw.items (Or.inr rfl) y first.mem.2
            rw [equal_tuple_of_firstUnequal first] at h
            exact .tuple first (ih x first.mem.1 h hy)
      | _ => simp [equal] at h
  | @set xs hk hd =>
      cases w with
      | set ys =>
          rw [equal] at h
          split at h
          · rw [containedIn_eq hk hw.members] at h
            cases h
          · cases h
      | _ => simp [equal] at h
  | @dict es hvalues hk hd ih =>
      cases w with
      | dict fs =>
          obtain ⟨hvalues',hk',-⟩ := hw.entries
          rw [equal] at h
          split at h
          · rename_i hlen
            rcases exists_equalEntries_or_firstEntry hk hk' with ⟨b,hb⟩ | ⟨p,q,first⟩
            · simp [hb] at h
            · obtain ⟨⟨e,he,rfl⟩,f,hf,rfl⟩ := first.mem
              rw [first.equalEntries_eq hk hk'] at h
              exact .dict hlen first (ih e he h (hvalues' f hf))
          · cases h
      | _ => simp [equal] at h

/-- Equality fails exactly where it falters. -/
theorem equal_eq_error_iff (hv : v.WellFormed) (hw : w.WellFormed) :
    v.equal w = .error f ↔ f = .noResult ∧ Falters v w := by
  constructor
  · intro h
    have hs := falters_of_equal_eq h hv hw
    rw [hs.equal_eq hv hw] at h
    exact ⟨(Except.error.inj h).symm,hs⟩
  · rintro ⟨rfl,hs⟩
    exact hs.equal_eq hv hw

theorem exists_equal_iff (hv : v.WellFormed) (hw : w.WellFormed) :
    (∃ b, v.equal w = .ok b) ↔ ¬ Falters v w := by
  cases h : v.equal w with
  | error f => simp [falters_of_equal_eq h hv hw]
  | ok b =>
      have hnot : ¬ Falters v w := fun hs => by simp [hs.equal_eq hv hw] at h
      simp [hnot]

end

end Value

end Vetting
