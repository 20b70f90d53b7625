import Mathlib.Data.List.Forall2
import Vetting.Proofs.Place.Descent

/-!
# Writes at independent keys

Two rows of keys are independent if they part at two different names or at two different
indexes. Writes there come to the same in either order, up to the order in which the
entries of a dictionary are put in. The step is `Value.alike_putSlot`: what has been put
into a container at one key does not show at another, or shows only as nulls that fill up
a list. The shared keys before that lead both writes through the same containers, those
included that the first of them has to make.
-/
namespace Vetting
open Text Number

namespace Key

/-- An index, or a name that no integer is read from. -/
def Literal : Key → Prop
  | .name t => readInt? t = none
  | .index _ => True

instance : DecidablePred Literal
  | .name t => inferInstanceAs (Decidable (readInt? t = none))
  | .index _ => .isTrue trivial

/-- A key that can be looked for: not a name that is made of digit signs but spells no
integer. -/
def Legible : Key → Prop
  | .name t => isDigitText t = true → readInt? t ≠ none
  | .index _ => True

instance : DecidablePred Legible
  | .name t => inferInstanceAs (Decidable (isDigitText t = true → readInt? t ≠ none))
  | .index _ => .isTrue trivial

/-- Two different names or two different indexes. -/
def Apart : Key → Key → Prop
  | .name s,.name t => s ≠ t
  | .index n,.index m => n ≠ m
  | _,_ => False

instance : DecidableRel Apart
  | .name s,.name t => inferInstanceAs (Decidable (s ≠ t))
  | .index n,.index m => inferInstanceAs (Decidable (n ≠ m))
  | .name _,.index _ => .isFalse id
  | .index _,.name _ => .isFalse id

variable {k l : Key}

theorem Apart.symm (h : k.Apart l) : l.Apart k := by
  cases k <;> cases l <;> first | exact Ne.symm h | exact h

theorem Apart.fresh_eq (h : k.Apart l) : Value.fresh k = Value.fresh l := by
  cases k <;> cases l <;> first | rfl | exact h.elim

theorem Apart.distinct (h : k.Apart l) : Value.Distinct k.value l.value := by
  cases k with
  | name s =>
      cases l with
      | name t => exact Value.distinct_texts fun he => h (String.ofList_injective he)
      | index m => exact h.elim
  | index n =>
      cases l with
      | name t => exact h.elim
      | index m => exact Value.distinct_ints fun he => h (Int.ofNat.inj he)

theorem Literal.spelled {t : List Char} (h : (Key.name t).Literal) : readInt? t = none := h

theorem Literal.not_spells (hk : k.Literal) (n : Int) : ¬ k.Spells n := by
  rintro ⟨t,rfl,-,hn⟩
  exact Option.some_ne_none n (hn.symm.trans hk.spelled)

theorem Literal.not_hasBoth (hk : k.Literal) (v : Value) : ¬ v.HasBoth k := by
  rintro ⟨es,n,-,hn,-⟩
  exact hk.not_spells n hn

/-- Two rows of keys that go together at first and part at `k` and `l`. -/
structure Parting (before : List Key) (k l : Key) : Prop where
  shared : ∀ b ∈ before, b.Literal
  left : k.Literal
  right : l.Literal
  apart : k.Apart l

namespace Parting
variable {before : List Key} {b : Key}

theorem symm (h : Parting before k l) : Parting before l k :=
  ⟨h.shared,h.right,h.left,h.apart.symm⟩

theorem tail (h : Parting (b :: before) k l) : Parting before k l :=
  ⟨fun c hc => h.shared c (List.mem_cons_of_mem b hc),h.left,h.right,h.apart⟩

theorem head (h : Parting (b :: before) k l) : b.Literal := h.shared b List.mem_cons_self

end Parting

end Key

namespace Value
variable {v u w c x y : Value} {k l b : Key} {ks ls before : List Key} {s t : Slot}

/-- The same value but for the order of entries in dictionaries, at every depth. -/
inductive Reordered : Value → Value → Prop
  | refl (v : Value) : Reordered v v
  | list {xs ys : List Value} : List.Forall₂ Reordered xs ys →
      Reordered (.list xs) (.list ys)
  | tuple {xs ys : List Value} : List.Forall₂ Reordered xs ys →
      Reordered (.tuple xs) (.tuple ys)
  | dict {es fs gs : List (Value × Value)} : es.Perm fs → fs.map Prod.fst = gs.map Prod.fst →
      List.Forall₂ Reordered (fs.map Prod.snd) (gs.map Prod.snd) →
      Reordered (.dict es) (.dict gs)

theorem reordered_all (xs : List Value) : List.Forall₂ Reordered xs xs :=
  List.forall₂_same.mpr fun x _ => .refl x

/-- A value put under a key may be exchanged for a reordered one. -/
theorem reordered_insert (k : Value) (h : x.Reordered y) (es : List (Value × Value)) :
    (insert k x es).map Prod.fst = (insert k y es).map Prod.fst ∧
      List.Forall₂ Reordered ((insert k x es).map Prod.snd) ((insert k y es).map Prod.snd) := by
  induction es with
  | nil => exact ⟨rfl,.cons h .nil⟩
  | cons e rest ih =>
      obtain ⟨hk,hv⟩ := ih
      simp only [insert]
      split
      · exact ⟨rfl,.cons h (reordered_all _)⟩
      · constructor
        · rw [List.map_cons,List.map_cons,hk]
        · exact .cons (.refl e.2) hv

theorem reordered_set (i : Nat) (h : x.Reordered y) (xs : List Value) :
    List.Forall₂ Reordered (xs.set i x) (xs.set i y) := by
  induction xs generalizing i with
  | nil => exact .nil
  | cons z rest ih =>
      cases i with
      | zero => exact .cons h (reordered_all rest)
      | succ i => exact .cons (.refl z) (ih i)

theorem Reordered.putSlot (h : x.Reordered y) (v : Value) (s : Slot) :
    (v.putSlot s x).Reordered (v.putSlot s y) := by
  cases v <;> cases s <;> try exact .refl _
  case list.item xs i =>
    apply Reordered.list
    unfold padSet
    split
    · exact reordered_set i h xs
    · exact List.rel_append (reordered_all _) (.cons h .nil)
  case tuple.item xs i => exact .tuple (reordered_set i h xs)
  case dict.entry es k =>
    obtain ⟨hk,hv⟩ := reordered_insert k h es
    exact .dict (.refl _) hk hv

/-- What a key leads to, null where it leads nowhere. -/
def found (v : Value) (k : Key) : Except Fault Value := (v.child k).map Prod.snd

/-- What is read at keys, null where they lead nowhere. -/
def seen (v : Value) (ks : List Key) : Except Fault Value := (v.get? ks).map (·.getD .null)

theorem seen_null (ks : List Key) : Value.null.seen ks = .ok .null := by
  cases ks <;> rfl

theorem seen_cons (v : Value) (k : Key) (ks : List Key) :
    v.seen (k :: ks) = (v.found k).bind fun c => c.seen ks := by
  rw [seen,get?,found,child]
  cases v.readSlot k with
  | error f => rfl
  | ok r =>
      cases r with
      | none => exact (seen_null ks).symm
      | some s =>
          simp only [bind,Except.bind]
          cases v.atSlot? s with
          | none => exact (seen_null ks).symm
          | some c => rfl

theorem found_of_slot (h : v.readSlot k = .ok (some s)) (hs : v.atSlot? s = some c) :
    v.found k = .ok c := by
  rw [found,child,h]
  simp only [bind,Except.bind,hs]
  rfl

/-- Two values that neither a reading nor a write at a key tells apart. A null that is
there counts as one that is not. -/
def Alike (k : Key) (v u : Value) : Prop :=
  v.writeSlot k = u.writeSlot k ∧
    (v.child k = u.child k ∨ v.found k = .ok .null ∧ u.found k = .ok .null)

theorem child_of_found_null (h : v.found k = .ok .null) :
    ∃ read, v.child k = .ok (read,.null) := by
  unfold found at h
  cases hc : v.child k with
  | error f =>
      rw [hc] at h
      cases h
  | ok r =>
      rw [hc] at h
      obtain ⟨read,d⟩ := r
      cases h
      exact ⟨read,rfl⟩

theorem entrance_of_found_null (h : v.found k = .ok .null) (next : Key) (ks : List Key) :
    v.entrance k (next :: ks) = (v.writeSlot k).map fun s => (s,fresh next) := by
  obtain ⟨read,hc⟩ := child_of_found_null h
  rw [entrance,hc]
  cases read <;> rfl

namespace Alike

theorem seen_eq (h : Alike k v u) (ks : List Key) : v.seen (k :: ks) = u.seen (k :: ks) := by
  have hf : v.found k = u.found k := by
    rcases h.2 with hc | ⟨hv,hu⟩
    · rw [found,found,hc]
    · rw [hv,hu]
  rw [seen_cons,seen_cons,hf]

theorem entrance_eq (h : Alike k v u) (ks : List Key) : v.entrance k ks = u.entrance k ks := by
  obtain ⟨hw,hc⟩ := h
  cases ks with
  | nil => rw [entrance,entrance,hw]
  | cons next rest =>
      rcases hc with hc | ⟨hv,hu⟩
      · rw [entrance,entrance,hc,hw]
      · rw [entrance_of_found_null hv,entrance_of_found_null hu,hw]

end Alike

theorem position?_natCast (size n : Nat) :
    position? size n = if n < size then some n else none := by
  have hn : ¬ (n : Int) < 0 := by omega
  simp [position?,hn]

theorem child_items {xs : List Value} (hv : v = .list xs ∨ v = .tuple xs) (n : Nat) :
    v.child (.index n) =
      .ok (if n < xs.length then some (.item n) else none,xs[n]?.getD .null) := by
  have hr : v.readSlot (.index n) = .ok ((position? xs.length n).map .item) := by
    rcases hv with rfl | rfl <;> rfl
  have ha : v.atSlot? (.item n) = xs[n]? := by
    rcases hv with rfl | rfl <;> rfl
  rw [child,hr,position?_natCast]
  split
  · simp only [Option.map_some,bind,Except.bind,ha]
  · rename_i hn
    rw [List.getElem?_eq_none (Nat.not_lt.mp hn)]
    rfl

theorem writeSlot_dict (hk : k.Literal) (es fs : List (Value × Value)) :
    (Value.dict es).writeSlot k = (Value.dict fs).writeSlot k := by
  cases k with
  | index n => rfl
  | name t =>
      simp only [writeSlot,spelledIndex,hk.spelled]
      rfl

/-- A literal key that is not in a dictionary is not looked for under another one. -/
theorem readSlot_of_absent (hk : k.Literal) {es : List (Value × Value)}
    (h : lookup k.value es = none) : (Value.dict es).readSlot k = (Value.dict []).readSlot k ∧
      ∀ s, (Value.dict es).readSlot k ≠ .ok (some s) := by
  cases k with
  | index n =>
      simp only [readSlot,h]
      constructor
      · rfl
      · intro s hs
        cases hs
  | name t =>
      simp only [readSlot,spelledIndex,hk.spelled,h]
      constructor
      · rfl
      · intro s hs
        cases ht : isDigitText t <;> simp [ht,bind,Except.bind] at hs

theorem child_dict (hk : k.Literal) (es : List (Value × Value)) :
    (Value.dict es).child k = match lookup k.value es with
      | some c => .ok (some (.entry k.value),c)
      | none => ((Value.dict []).readSlot k).map fun s => (s,.null) := by
  rw [child]
  cases hl : lookup k.value es with
  | some c =>
      rw [readSlot_of_present (by rw [hl]; rfl)]
      simp only [bind,Except.bind,atSlot?,hl]
      rfl
  | none =>
      obtain ⟨hr,hs⟩ := readSlot_of_absent hk hl
      rw [hr] at hs ⊢
      cases hd : (Value.dict []).readSlot k with
      | error f => rfl
      | ok r =>
          cases r with
          | none => rfl
          | some s => exact (hs s hd).elim

theorem alike_dict (hk : k.Literal) {es fs : List (Value × Value)}
    (h : lookup k.value es = lookup k.value fs) : Alike k (.dict es) (.dict fs) := by
  refine ⟨writeSlot_dict hk es fs,Or.inl ?_⟩
  rw [child_dict hk es,child_dict hk fs,h]

theorem alike_list {xs ys : List Value} {n : Nat}
    (hv : xs[n]?.getD .null = ys[n]?.getD .null)
    (hw : writePosition xs.length n = writePosition ys.length n) :
    Alike (.index n) (.list xs) (.list ys) := by
  refine ⟨hw,?_⟩
  rw [found,found,child_items (Or.inl rfl),child_items (Or.inl rfl),hv]
  by_cases hx : n < xs.length
  · by_cases hy : n < ys.length
    · rw [if_pos hx,if_pos hy]
      exact Or.inl rfl
    · rw [List.getElem?_eq_none (Nat.not_lt.mp hy)]
      exact Or.inr ⟨rfl,rfl⟩
  · rw [← hv,List.getElem?_eq_none (Nat.not_lt.mp hx)]
    exact Or.inr ⟨rfl,rfl⟩

theorem alike_tuple {xs ys : List Value} {n : Nat} (hl : xs.length = ys.length)
    (hv : xs[n]? = ys[n]?) : Alike (.index n) (.tuple xs) (.tuple ys) := by
  refine ⟨rfl,Or.inl ?_⟩
  rw [child_items (Or.inr rfl),child_items (Or.inr rfl),hl,hv]

theorem index_of_readPosition? (hk : k.Literal) {size i : Nat}
    (h : readPosition? size k = some i) : k = .index i ∧ i < size := by
  cases k with
  | name t =>
      rw [readPosition?,hk.spelled] at h
      cases h
  | index n =>
      rw [readPosition?,position?_natCast] at h
      split at h
      · cases h
        exact ⟨rfl,by assumption⟩
      · cases h

/-- A literal key is entered as it stands. A list can be entered as far as it can be
filled up. -/
theorem slot_of_entrance (hk : k.Literal) (h : v.entrance k ks = .ok (s,c)) :
    (∃ es, v = .dict es ∧ s = .entry k.value) ∨ ∃ n, k = .index n ∧ s = .item n ∧
      ((∃ xs, v = .list xs ∧ (n < xs.length ∨ n < itemLimit)) ∨
        ∃ xs, v = .tuple xs ∧ n < xs.length) := by
  rcases entrance_cases h with ⟨hr,-⟩ | ⟨hw,-⟩
  · rcases readSlot_cases hr with ⟨es,rfl,⟨rfl,-⟩ | ⟨n,hn,-⟩⟩ | ⟨xs,i,hv,rfl,hi⟩
    · exact Or.inl ⟨es,rfl,rfl⟩
    · exact (hk.not_spells n hn).elim
    · obtain ⟨hki,hlt⟩ := index_of_readPosition? hk hi
      refine Or.inr ⟨i,hki,rfl,?_⟩
      rcases hv with rfl | rfl
      · exact Or.inl ⟨xs,rfl,Or.inl hlt⟩
      · exact Or.inr ⟨xs,rfl,hlt⟩
  · rcases writeSlot_cases hw with ⟨es,rfl,⟨rfl,-⟩ | ⟨n,hn,-⟩⟩ | ⟨xs,i,rfl,rfl,hi⟩
    · exact Or.inl ⟨es,rfl,rfl⟩
    · exact (hk.not_spells n hn).elim
    · obtain ⟨rfl,-⟩ := index_of_readPosition? hk (hi (i+1) (Nat.lt_succ_self i))
      refine Or.inr ⟨i,rfl,rfl,Or.inl ⟨xs,rfl,?_⟩⟩
      rw [writeSlot,writePosition] at hw
      split at hw
      · cases hw
      · omega

/-- What is put in at a key does not show at another one. -/
theorem alike_putSlot (hk : k.Literal) (hl : l.Literal) (hkl : k.Apart l)
    (h : v.entrance k ks = .ok (s,c)) (x : Value) : Alike l (v.putSlot s x) v := by
  rcases slot_of_entrance hk h with ⟨es,rfl,rfl⟩ | ⟨n,rfl,rfl,hv⟩
  · exact alike_dict hl (lookup_insert_of_distinct hkl.symm.distinct (sameKey_value k) x es)
  · cases l with
    | name t => exact hkl.elim
    | index m =>
        have hnm : m ≠ n := hkl.symm
        rcases hv with ⟨xs,rfl,hn⟩ | ⟨xs,rfl,hn⟩
        · apply alike_list
          · rw [getElem?_padSet,if_neg hnm]
            split
            · rfl
            · rename_i hm
              rw [List.getElem?_eq_none (Nat.not_lt.mp hm)]
              split <;> rfl
          · -- A list is never filled up beyond the limit, so a position behind it stays out.
            have hfull : ((max xs.length (n+1) : Nat) : Int) ≤ m ∧ (itemLimit : Int) ≤ m ↔
                (xs.length : Int) ≤ m ∧ (itemLimit : Int) ≤ m := by
              omega
            simp only [writePosition,length_padSet,hfull]
        · apply alike_tuple
          · exact List.length_set
          · exact List.getElem?_set_ne (Ne.symm hnm)

/-- Values can be put in at two keys in either order. -/
theorem reordered_putSlot_comm (hk : k.Literal) (hl : l.Literal) (hkl : k.Apart l)
    (h : v.entrance k ks = .ok (s,c)) (h' : v.entrance l ls = .ok (t,u)) (x y : Value) :
    ((v.putSlot s x).putSlot t y).Reordered ((v.putSlot t y).putSlot s x) := by
  rcases slot_of_entrance hk h with ⟨es,rfl,rfl⟩ | ⟨n,rfl,rfl,hv⟩
  · rcases slot_of_entrance hl h' with ⟨fs,-,rfl⟩ | ⟨m,-,-,⟨xs,hx,-⟩ | ⟨xs,hx,-⟩⟩
    · exact .dict (insert_insert_perm hkl.symm.distinct (sameKey_value l) (sameKey_value k)
        y x es) rfl (reordered_all _)
    · cases hx
    · cases hx
  · cases l with
    | name t => exact hkl.elim
    | index m =>
        have hnm : n ≠ m := hkl
        rcases slot_of_entrance hl h' with ⟨es,rfl,-⟩ | ⟨m,hm,rfl,-⟩
        · rcases hv with ⟨xs,hx,-⟩ | ⟨xs,hx,-⟩ <;> cases hx
        · cases hm
          rcases hv with ⟨xs,rfl,-⟩ | ⟨xs,rfl,-⟩
          · simp only [putSlot,padSet_comm xs hnm x y]
            exact .refl _
          · simp only [putSlot,List.set_comm x y hnm]
            exact .refl _

/-- After a write, a reading at its first key finds what the rest of the write has left. -/
theorem found_putSlot (hk : k.Literal) (h : v.entrance k ks = .ok (s,c)) (x : Value) :
    (v.putSlot s x).readSlot k = .ok (some s) ∧ (v.putSlot s x).atSlot? s = some x := by
  constructor
  · rcases entrance_cases h with ⟨hr,-⟩ | ⟨hw,-⟩
    · exact readSlot_putSlot_of_readSlot hr x
    · exact readSlot_putSlot_of_writeSlot hw (hk.not_hasBoth v) x
  · exact (fits_of_entrance h).atSlot?_putSlot x

theorem entrance_of_slot (h : v.readSlot k = .ok (some s)) (hs : v.atSlot? s = some c)
    (hn : c.isNull = false) (hks : ks ≠ []) : v.entrance k ks = .ok (s,c) := by
  cases ks with
  | nil => exact (hks rfl).elim
  | cons next rest =>
      rw [entrance,child,h]
      simp only [bind,Except.bind,hs,Option.getD_some,hn]
      rfl

theorem Fills.isNull (h : v.Fills ks w u) (hks : ks ≠ []) : u.isNull = false := by
  cases ks with
  | nil => exact (hks rfl).elim
  | cons k rest =>
      obtain ⟨s,c,x,he,-,rfl⟩ := fills_cons.mp h
      exact (fits_of_entrance he).isNull_putSlot x

/-- Only the kind of the key that comes next matters for what a step enters. -/
theorem entrance_append (hkl : k.Apart l) (v : Value) (b : Key) (before ks ls : List Key) :
    v.entrance b (before ++ k :: ks) = v.entrance b (before ++ l :: ls) := by
  cases before with
  | nil => simp only [List.nil_append,entrance,hkl.fresh_eq]
  | cons next rest => rfl

theorem seen_singleton (v : Value) (k : Key) : v.seen [k] = v.found k := by
  rw [seen_cons]
  cases v.found k <;> rfl

/-- In a new container nothing is found, if the key can be looked for at all. -/
theorem found_fresh (h : (fresh k).found k = .ok c) : c = .null := by
  rw [← seen_singleton,seen] at h
  cases hg : (fresh k).get? [k] with
  | error f =>
      rw [hg] at h
      cases h
  | ok r =>
      cases r with
      | none =>
          rw [hg] at h
          cases h
          rfl
      | some d => exact (get?_fresh_ne k d hg).elim

theorem found_fresh_of_legible (hk : k.Literal) (hd : k.Legible) :
    (fresh k).found k = .ok .null := by
  cases k with
  | index n => rfl
  | name t =>
      have ht : isDigitText t = false := by
        rw [Bool.eq_false_iff]
        exact fun ht => hd ht hk.spelled
      rw [fresh,found,child,readSlot]
      simp [lookup,ht,bind,Except.bind,Except.map]

theorem found_of_entrance (h : v.entrance k ks = .ok (s,c)) (hks : ks ≠ []) :
    ∃ d, v.found k = .ok d := by
  cases ks with
  | nil => exact (hks rfl).elim
  | cons next rest =>
      rw [found]
      rw [entrance] at h
      cases hc : v.child k with
      | error f =>
          rw [hc] at h
          cases h
      | ok r => exact ⟨r.2,rfl⟩

/-- Nothing was seen in a new container before it was filled. -/
theorem seen_fresh_of_fills (hl : l.Literal) (hkl : k.Apart l) (hd : l.Legible)
    {next : Key} {rest : List Key} (hn : before ++ k :: ks = next :: rest)
    (h : (fresh next).Fills (before ++ k :: ks) w u) :
    (fresh next).seen (before ++ l :: ls) = .ok .null := by
  cases before with
  | nil =>
      cases hn
      rw [List.nil_append,seen_cons,hkl.fresh_eq,found_fresh_of_legible hl hd]
      exact seen_null ls
  | cons b more =>
      cases hn
      obtain ⟨s,c,x,he,-⟩ := fills_cons.mp h
      obtain ⟨d,hf⟩ := found_of_entrance he (by simp)
      rw [List.cons_append,seen_cons,hf,found_fresh hf]
      exact seen_null _

/-- By induction on the shared keys: a write is not seen at keys that part from its own.
Where it makes the first containers on the way, nothing is seen in them. -/
theorem Fills.seen_eq (hp : Key.Parting before k l) (hd : l.Legible)
    (h : v.Fills (before ++ k :: ks) w u) :
    u.seen (before ++ l :: ls) = v.seen (before ++ l :: ls) := by
  induction before generalizing v u with
  | nil =>
      obtain ⟨s,c,x,he,-,rfl⟩ := fills_cons.mp h
      exact (alike_putSlot hp.left hp.right hp.apart he x).seen_eq ls
  | cons b rest ih =>
      obtain ⟨s,c,x,he,hx,rfl⟩ := fills_cons.mp h
      obtain ⟨hr,hs⟩ := found_putSlot hp.head he x
      have hc : (v.found b).bind (fun c => c.seen (rest ++ l :: ls)) =
          c.seen (rest ++ l :: ls) := by
        rcases entrance_cases he with ⟨hr,hc,-,-⟩ | ⟨-,hnil | ⟨next,more,hnext,rfl,hnull⟩⟩
        · rw [found_of_slot hr hc]
          rfl
        · simp at hnil
        · have hf : v.found b = .ok .null := by
            rw [← seen_singleton,seen]
            rcases hnull with hnull | hnull <;> rw [hnull] <;> rfl
          rw [hf,seen_fresh_of_fills hp.right hp.apart hd hnext hx]
          exact seen_null _
      rw [List.cons_append,seen_cons,seen_cons,found_of_slot hr hs,hc]
      exact ih hp.tail hx

theorem entrance_again (hb : b.Literal) (he : v.entrance b ks = .ok (s,c))
    (hx : x.isNull = false) (hls : ls ≠ []) : (v.putSlot s x).entrance b ls = .ok (s,x) := by
  obtain ⟨hr,hs⟩ := found_putSlot hb he x
  exact entrance_of_slot hr hs hx hls

/-- Two writes whose keys part can be made in the other order, and come to the same but
for the order of entries. -/
theorem Fills.comm (hp : Key.Parting before k l) (h : v.Fills (before ++ k :: ks) x u)
    (h' : u.Fills (before ++ l :: ls) y w) :
    ∃ u' w', v.Fills (before ++ l :: ls) y u' ∧ u'.Fills (before ++ k :: ks) x w' ∧
      w.Reordered w' := by
  induction before generalizing v u w with
  | nil =>
      obtain ⟨s,c,p,he,hx,rfl⟩ := fills_cons.mp h
      obtain ⟨t,d,q,he',hy,rfl⟩ := fills_cons.mp h'
      rw [(alike_putSlot hp.left hp.right hp.apart he p).entrance_eq ls] at he'
      have hback := (alike_putSlot hp.right hp.left hp.apart.symm he' q).entrance_eq ks
      rw [he] at hback
      exact ⟨_,_,fills_cons.mpr ⟨t,d,q,he',hy,rfl⟩,fills_cons.mpr ⟨s,c,p,hback,hx,rfl⟩,
        reordered_putSlot_comm hp.left hp.right hp.apart he he' p q⟩
  | cons b rest ih =>
      obtain ⟨s,c,p,he,hx,rfl⟩ := fills_cons.mp h
      obtain ⟨t,d,q,he',hy,rfl⟩ := fills_cons.mp h'
      rw [entrance_again hp.head he (hx.isNull (by simp)) (by simp)] at he'
      cases he'
      obtain ⟨p',q',hy',hx',hq⟩ := ih hp.tail hx hy
      have hfit := fits_of_entrance he
      have he := entrance_append hp.apart v b rest ks ls ▸ he
      have hback : (v.putSlot s p').entrance b (rest ++ k :: ks) = .ok (s,p') :=
        entrance_again hp.head he (hy'.isNull (by simp)) (by simp)
      refine ⟨_,_,fills_cons.mpr ⟨s,c,p',he,hy',rfl⟩,
        fills_cons.mpr ⟨s,p',q',hback,hx',rfl⟩,?_⟩
      rw [hfit.putSlot_putSlot,hfit.putSlot_putSlot]
      exact hq.putSlot v s

end Value
end Vetting
