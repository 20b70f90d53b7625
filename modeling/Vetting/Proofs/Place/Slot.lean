import Mathlib.Data.List.Basic
import Vetting.Place

/-!
# Slots of containers

What a slot of a container holds after something has been put into it, and to which slot
a key leads then. A key that a write has resolved to a slot is resolved to it by a reading
from then on, with one exception: in a dictionary that has both a name and the number that
it spells, a write goes to the number, and a reading still to the name.
-/
namespace Vetting
open Text Number

/-- A number spelled by digit signs has no sign. -/
theorem readInt?_nonneg {s : List Char} {n : Int} (hs : isDigitText s = true)
    (hr : readInt? s = some n) : 0 ≤ n := by
  have hsigns : ∀ c ∈ s, isDigitSign c = true := by
    rw [isDigitText,Bool.and_eq_true,List.all_eq_true] at hs
    exact hs.2
  unfold readInt? at hr
  have hnegative : (takeSign (trimNumber s)).1 = false := by
    unfold takeSign
    split
    · rename_i rest ht
      have hm : '-' ∈ trimNumber s := by simp [ht]
      have hminus : '-' ∈ s := by
        rw [trimNumber,List.mem_reverse] at hm
        have hd := List.mem_reverse.mp (List.dropWhile_subset _ hm)
        exact List.dropWhile_subset _ hd
      exact absurd (hsigns _ hminus) (by decide)
    · rfl
    · rfl
  dsimp only at hr
  rw [hnegative] at hr
  split at hr
  · split at hr
    · cases hr
      simp [signed]
    · cases hr
  · cases hr

namespace Value
variable {v u w x : Value} {k next : Key} {s t : Slot}

theorem length_padSet (xs : List Value) (i : Nat) (w : Value) :
    (padSet xs i w).length = max xs.length (i+1) := by
  unfold padSet
  split
  · rw [List.length_set]
    omega
  · simp
    omega

theorem getElem?_padSet (xs : List Value) (i : Nat) (w : Value) (j : Nat) :
    (padSet xs i w)[j]? = if j = i then some w else if j < xs.length then xs[j]?
      else if j < i then some .null else none := by
  unfold padSet
  split
  · rename_i hi
    rw [List.getElem?_set]
    split
    · rename_i hij
      simp [hij]
    · rename_i hij
      rw [if_neg (Ne.symm hij)]
      split
      · rfl
      · rename_i hj
        rw [if_neg (by omega),List.getElem?_eq_none (by omega)]
  · rename_i hi
    rw [List.append_assoc]
    rcases Nat.lt_or_ge j xs.length with hj | hj
    · rw [List.getElem?_append_left hj,if_neg (by omega),if_pos hj]
    · rw [List.getElem?_append_right hj,if_neg (Nat.not_lt.mpr hj)]
      rcases Nat.lt_trichotomy j i with hlt | rfl | hgt
      · rw [List.getElem?_append_left (by simpa using by omega),
          List.getElem?_replicate,if_pos (by omega),if_neg (by omega),if_pos hlt]
      · rw [List.getElem?_append_right (by simp)]
        simp
      · rw [List.getElem?_append_right (by simp; omega),if_neg (by omega),if_neg (by omega),
          List.getElem?_eq_none]
        simp
        omega

theorem padSet_padSet_self (xs : List Value) (i : Nat) (u w : Value) :
    padSet (padSet xs i u) i w = padSet xs i w := by
  apply List.ext_getElem?
  intro j
  simp only [getElem?_padSet,length_padSet]
  grind

/-- Positions of a list can be filled in either order. -/
theorem padSet_comm (xs : List Value) {i j : Nat} (h : i ≠ j) (u w : Value) :
    padSet (padSet xs i u) j w = padSet (padSet xs j w) i u := by
  apply List.ext_getElem?
  intro l
  simp only [getElem?_padSet,length_padSet]
  grind

/-- A slot that a value can be put into. -/
def Fits : Value → Slot → Prop
  | .dict _,.entry k => sameKey k k = true
  | .list _,.item _ => True
  | .tuple xs,.item i => i < xs.length
  | _,_ => False

namespace Fits

theorem atSlot?_putSlot (h : v.Fits s) (w : Value) : (v.putSlot s w).atSlot? s = some w := by
  unfold Fits at h
  split at h
  · exact lookup_insert_self h w _
  · simp [putSlot,atSlot?,getElem?_padSet]
  · simp [putSlot,atSlot?,h]
  · exact h.elim

theorem putSlot_putSlot (h : v.Fits s) (u w : Value) :
    (v.putSlot s u).putSlot s w = v.putSlot s w := by
  unfold Fits at h
  split at h
  · exact congrArg Value.dict (insert_insert_self h u w _)
  · exact congrArg Value.list (padSet_padSet_self _ _ u w)
  · simp [putSlot]
  · exact h.elim

theorem isNull_putSlot (h : v.Fits s) (w : Value) : (v.putSlot s w).isNull = false := by
  unfold Fits at h
  split at h
  · rfl
  · rfl
  · rfl
  · exact h.elim

end Fits

theorem position?_of_lt {size : Nat} {n : Int} (h : 0 ≤ n) (hn : n.toNat < size) :
    position? size n = some n.toNat := by
  unfold position?
  dsimp only
  rw [if_neg (Int.not_lt.mpr h),if_pos (by omega)]

theorem lt_of_position? {size i : Nat} {n : Int} (h : position? size n = some i) :
    i < size := by
  unfold position? at h
  dsimp only at h
  generalize (if n < 0 then n + size else n) = m at h
  split at h
  · cases h
    omega
  · cases h

theorem lt_of_readPosition? {size i : Nat} (h : readPosition? size k = some i) :
    i < size := by
  cases k with
  | index n => exact lt_of_position? h
  | name t =>
      obtain ⟨n,-,hn⟩ := Option.bind_eq_some_iff.mp h
      exact lt_of_position? hn

theorem sameKey_value (k : Key) : sameKey k.value k.value = true := by
  cases k with
  | name t => exact sameKey_text.mpr rfl
  | index n => exact sameKey_int_self n

end Value

/-- A name made of digit signs, and the number that it spells. -/
def Key.Spells (k : Key) (n : Int) : Prop :=
  ∃ t, k = .name t ∧ isDigitText t = true ∧ readInt? t = some n

/-- A spelled number is another key than the name that spells it. -/
theorem Key.Spells.distinct {k : Key} {n : Int} (h : k.Spells n) :
    Value.Distinct k.value (.int n) := by
  obtain ⟨t,rfl,-⟩ := h
  exact Value.distinct_text_int _ n

namespace Value
variable {v u w x : Value} {k next : Key} {s t : Slot}

/-- The ways in which a reading comes to a slot. -/
theorem readSlot_cases (h : v.readSlot k = .ok (some s)) :
    (∃ es, v = .dict es ∧ ((s = .entry k.value ∧ (lookup k.value es).isSome = true) ∨
      ∃ n, k.Spells n ∧ lookup k.value es = none ∧ (lookup (.int n) es).isSome = true ∧
        s = .entry (.int n))) ∨
    ∃ xs i, (v = .list xs ∨ v = .tuple xs) ∧ s = .item i ∧
      readPosition? xs.length k = some i := by
  unfold readSlot at h
  split at h
  · rename_i es
    refine Or.inl ⟨es,rfl,?_⟩
    split at h
    · rename_i hl
      cases h
      exact Or.inl ⟨rfl,hl⟩
    · rename_i hl
      split at h
      · cases h
      · rename_i t
        split at h
        · rename_i ht
          unfold spelledIndex at h
          split at h
          · rename_i n hn
            simp only [bind,Except.bind] at h
            split at h
            · rename_i hi
              cases h
              exact Or.inr ⟨n,⟨t,rfl,ht,hn⟩,by simpa using hl,hi,rfl⟩
            · cases h
          · cases h
        · cases h
  · rename_i xs
    obtain ⟨i,hi,rfl⟩ := Option.map_eq_some_iff.mp (Except.ok.inj h)
    exact Or.inr ⟨xs,i,Or.inl rfl,rfl,hi⟩
  · rename_i xs
    obtain ⟨i,hi,rfl⟩ := Option.map_eq_some_iff.mp (Except.ok.inj h)
    exact Or.inr ⟨xs,i,Or.inr rfl,rfl,hi⟩
  · cases h

/-- The ways in which a write comes to a slot. A position may lie beyond the end of a
list, and is the one that is read as soon as the list is long enough. -/
theorem writeSlot_cases (h : v.writeSlot k = .ok s) :
    (∃ es, v = .dict es ∧ ((s = .entry k.value ∧
        ∀ n, k.Spells n → (lookup (.int n) es).isSome = false) ∨
      ∃ n, k.Spells n ∧ (lookup (.int n) es).isSome = true ∧ s = .entry (.int n))) ∨
    ∃ xs i, v = .list xs ∧ s = .item i ∧
      ∀ size, i < size → readPosition? size k = some i := by
  unfold writeSlot at h
  split at h
  · rename_i es n
    cases h
    refine Or.inl ⟨es,rfl,Or.inl ⟨rfl,?_⟩⟩
    rintro m ⟨t,ht,-⟩
    cases ht
  · rename_i es t
    refine Or.inl ⟨es,rfl,?_⟩
    split at h
    · rename_i ht
      unfold spelledIndex at h
      split at h
      · rename_i n hn
        simp only [orFail,bind,Except.bind,Except.ok.injEq] at h
        split at h
        · rename_i hi
          exact Or.inr ⟨n,⟨t,rfl,ht,hn⟩,hi,h.symm⟩
        · rename_i hi
          refine Or.inl ⟨h.symm,?_⟩
          rintro m ⟨t',ht',-,hm⟩
          cases ht'
          rw [hn] at hm
          cases hm
          simpa using hi
      · cases h
    · rename_i ht
      cases h
      refine Or.inl ⟨rfl,?_⟩
      rintro m ⟨t',ht',hd,-⟩
      cases ht'
      exact absurd hd ht
  · rename_i xs n
    unfold writePosition at h
    split at h
    · cases h
    · cases h
      refine Or.inr ⟨xs,_,rfl,rfl,?_⟩
      intro size hsize
      exact position?_of_lt (Int.natCast_nonneg n) hsize
  · rename_i xs t
    split at h
    · rename_i ht
      unfold spelledIndex at h
      split at h
      · rename_i n hn
        simp only [orFail,bind,Except.bind] at h
        unfold writePosition at h
        split at h
        · cases h
        · cases h
          refine Or.inr ⟨xs,_,rfl,rfl,?_⟩
          intro size hsize
          rw [readPosition?,hn]
          exact position?_of_lt (readInt?_nonneg ht hn) hsize
      · cases h
    · cases h
  · cases h

theorem readSlot_of_present {es : List (Value × Value)}
    (h : (lookup k.value es).isSome = true) :
    (Value.dict es).readSlot k = .ok (some (.entry k.value)) := by
  simp only [readSlot,h,if_true]

theorem readSlot_of_spelled {es : List (Value × Value)} {n : Int} (hk : k.Spells n)
    (h : lookup k.value es = none) (hn : (lookup (.int n) es).isSome = true) :
    (Value.dict es).readSlot k = .ok (some (.entry (.int n))) := by
  obtain ⟨t,rfl,ht,hr⟩ := hk
  rw [readSlot,h]
  simp [ht,spelledIndex,hr,hn,bind,Except.bind]

theorem readSlot_list {xs : List Value} {i : Nat} (h : readPosition? xs.length k = some i) :
    (Value.list xs).readSlot k = .ok (some (.item i)) := by
  rw [readSlot,h]
  rfl

theorem readSlot_tuple {xs : List Value} {i : Nat} (h : readPosition? xs.length k = some i) :
    (Value.tuple xs).readSlot k = .ok (some (.item i)) := by
  rw [readSlot,h]
  rfl

theorem fits_of_readSlot (h : v.readSlot k = .ok (some s)) : v.Fits s := by
  rcases readSlot_cases h with ⟨es,rfl,⟨rfl,-⟩ | ⟨n,-,-,-,rfl⟩⟩ | ⟨xs,i,rfl | rfl,rfl,hi⟩
  · exact sameKey_value k
  · exact sameKey_int_self n
  · trivial
  · exact lt_of_readPosition? hi

theorem fits_of_writeSlot (h : v.writeSlot k = .ok s) : v.Fits s := by
  rcases writeSlot_cases h with ⟨es,rfl,⟨rfl,-⟩ | ⟨n,-,-,rfl⟩⟩ | ⟨xs,i,rfl,rfl,-⟩
  · exact sameKey_value k
  · exact sameKey_int_self n
  · trivial

/-- What is read at a key can be replaced, and is read at the key again. -/
theorem readSlot_putSlot_of_readSlot (h : v.readSlot k = .ok (some s)) (w : Value) :
    (v.putSlot s w).readSlot k = .ok (some s) := by
  rcases readSlot_cases h with ⟨es,rfl,⟨rfl,-⟩ | ⟨n,hk,hl,-,rfl⟩⟩ | ⟨xs,i,rfl | rfl,rfl,hi⟩
  · apply readSlot_of_present
    rw [lookup_insert_self (sameKey_value k)]
    rfl
  · apply readSlot_of_spelled hk
    · rw [lookup_insert_of_distinct hk.distinct (sameKey_int_self n),hl]
    · rw [lookup_insert_self (sameKey_int_self n)]
      rfl
  · apply readSlot_list
    have hlt := lt_of_readPosition? hi
    rw [length_padSet,Nat.max_eq_left hlt,hi]
  · apply readSlot_tuple
    rw [List.length_set,hi]

/-- Whether a dictionary has a name as well as the number that the name spells. -/
def HasBoth (v : Value) (k : Key) : Prop :=
  ∃ es n, v = .dict es ∧ k.Spells n ∧ (lookup k.value es).isSome = true ∧
    (lookup (.int n) es).isSome = true

/-- What is written at a key is read there, unless the dictionary has the key twice. -/
theorem readSlot_putSlot_of_writeSlot (h : v.writeSlot k = .ok s) (hb : ¬ v.HasBoth k)
    (w : Value) : (v.putSlot s w).readSlot k = .ok (some s) := by
  rcases writeSlot_cases h with ⟨es,rfl,⟨rfl,-⟩ | ⟨n,hk,hn,rfl⟩⟩ | ⟨xs,i,rfl,rfl,hi⟩
  · apply readSlot_of_present
    rw [lookup_insert_self (sameKey_value k)]
    rfl
  · apply readSlot_of_spelled hk
    · rw [lookup_insert_of_distinct hk.distinct (sameKey_int_self n)]
      by_contra hl
      exact hb ⟨es,n,rfl,hk,Option.isSome_iff_ne_none.mpr hl,hn⟩
    · rw [lookup_insert_self (sameKey_int_self n)]
      rfl
  · apply readSlot_list
    rw [length_padSet]
    exact hi _ (by omega)

end Value
end Vetting
