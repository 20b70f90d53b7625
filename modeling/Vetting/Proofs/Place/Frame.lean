import Vetting.Proofs.Place.RoundTrip
import Vetting.Proofs.Place.Commutation

/-!
# What a write leaves alone

A frame is a container with one slot left open, and a row of frames is everything around
one container inside others. A write that comes to its end follows keys as far as they lead
to something, through frames that it leaves as they are, to one container; in that one it
puts the rest, built up from the value, into one slot. So the value after a write is the
value before it but for that slot: this is `Path.write_changes_one_slot`.
-/
namespace Vetting
open Text Number

/-- A container with one slot left open. -/
inductive Frame where
  | entry (before : List (Value × Value)) (key : Value) (after : List (Value × Value))
  | item (before after : List Value)
  | part (before after : List Value)

namespace Frame

/-- The container with a value in the open slot. -/
def plug : Frame → Value → Value
  | .entry before key after,w => .dict (before ++ (key,w) :: after)
  | .item before after,w => .list (before ++ w :: after)
  | .part before after,w => .tuple (before ++ w :: after)

/-- Which slot is open: in a dictionary the first one with that key. -/
def Opens : Frame → Slot → Prop
  | .entry before key _,.entry k =>
      Value.sameKey k key = true ∧ ∀ e ∈ before, Value.sameKey k e.1 = false
  | .item before _,.item i => before.length = i
  | .part before _,.item i => before.length = i
  | _,_ => False

/-- The value inside all frames, the outermost of which comes first. -/
def plugAll (frames : List Frame) (w : Value) : Value := frames.foldr plug w

end Frame

namespace Value
variable {v u w c x : Value} {k next : Key} {ks before : List Key} {s : Slot} {f : Frame}

/-! ## Slots as frames -/

theorem exists_insert {es : List (Value × Value)} {key : Value}
    (h : lookup key es = some c) : ∃ before key' after, es = before ++ (key',c) :: after ∧
      (Frame.entry before key' after).Opens (.entry key) ∧
      ∀ x, insert key x es = before ++ (key',x) :: after := by
  induction es with
  | nil => cases h
  | cons e rest ih =>
      obtain ⟨l,d⟩ := e
      rw [lookup] at h
      cases hl : sameKey key l with
      | true =>
          rw [if_pos hl] at h
          cases h
          refine ⟨[],l,rest,rfl,⟨hl,by simp⟩,?_⟩
          intro x
          simp [insert,hl]
      | false =>
          rw [hl] at h
          obtain ⟨before,key',after,rfl,⟨hkey,hbefore⟩,hinsert⟩ := ih h
          refine ⟨(l,d) :: before,key',after,rfl,⟨hkey,?_⟩,?_⟩
          · intro e he
            cases he with
            | head => exact hl
            | tail _ he => exact hbefore e he
          · intro x
            simp [insert,hl,hinsert x]

theorem insert_of_absent {es : List (Value × Value)} {key : Value}
    (h : lookup key es = none) (x : Value) : insert key x es = es ++ [(key,x)] ∧
      ∀ e ∈ es, sameKey key e.1 = false := by
  induction es with
  | nil => exact ⟨rfl,by simp⟩
  | cons e rest ih =>
      obtain ⟨l,d⟩ := e
      rw [lookup] at h
      cases hl : sameKey key l with
      | true =>
          rw [if_pos hl] at h
          cases h
      | false =>
          rw [hl] at h
          obtain ⟨hinsert,habsent⟩ := ih h
          constructor
          · simp [insert,hl,hinsert]
          · intro e he
            cases he with
            | head => exact hl
            | tail _ he => exact habsent e he

/-- Around what a slot holds there is a frame, and a value put into the slot goes into that
frame. -/
theorem exists_frame (h : v.atSlot? s = some c) :
    ∃ f : Frame, f.Opens s ∧ v = f.plug c ∧ ∀ x, v.putSlot s x = f.plug x := by
  have hitem : ∀ {xs : List Value} {i : Nat}, xs[i]? = some c →
      (xs.take i).length = i ∧ xs = xs.take i ++ c :: xs.drop (i+1) ∧ i < xs.length := by
    intro xs i hi
    obtain ⟨hlt,hget⟩ := List.getElem?_eq_some_iff.mp hi
    refine ⟨List.length_take_of_le (Nat.le_of_lt hlt),?_,hlt⟩
    rw [← hget,← List.drop_eq_getElem_cons hlt,List.take_append_drop]
  unfold atSlot? at h
  split at h
  · obtain ⟨before,key,after,hes,hopen,hinsert⟩ := exists_insert h
    exact ⟨.entry before key after,hopen,congrArg Value.dict hes,
      fun x => congrArg Value.dict (hinsert x)⟩
  · rename_i xs i
    obtain ⟨hlength,hxs,hlt⟩ := hitem h
    refine ⟨.item (xs.take i) (xs.drop (i+1)),hlength,congrArg Value.list hxs,?_⟩
    intro x
    rw [putSlot,padSet,if_pos hlt,List.set_eq_take_append_cons_drop,if_pos hlt]
    rfl
  · rename_i xs i
    obtain ⟨hlength,hxs,hlt⟩ := hitem h
    refine ⟨.part (xs.take i) (xs.drop (i+1)),hlength,congrArg Value.tuple hxs,?_⟩
    intro x
    rw [putSlot,List.set_eq_take_append_cons_drop,if_pos hlt]
    rfl
  · cases h

/-! ## What a write does -/

/-- One container with a value in one of its slots and otherwise as it was: in the place of
what the slot held, or as a new last entry, or behind a list that is filled up with nulls. -/
inductive Puts : Value → Slot → Value → Value → Prop
  | over {f : Frame} {s : Slot} (old x : Value) : f.Opens s → Puts (f.plug old) s x (f.plug x)
  | entry {es : List (Value × Value)} {key : Value} (x : Value) :
      (∀ e ∈ es, sameKey key e.1 = false) →
      Puts (.dict es) (.entry key) x (.dict (es ++ [(key,x)]))
  | item {xs : List Value} {i : Nat} (x : Value) : xs.length ≤ i →
      Puts (.list xs) (.item i) x (.list (xs ++ List.replicate (i - xs.length) .null ++ [x]))

theorem puts_putSlot (h : v.writeSlot k = .ok s) (x : Value) : v.Puts s x (v.putSlot s x) := by
  cases ha : v.atSlot? s with
  | some c =>
      obtain ⟨f,hf,hv,hput⟩ := exists_frame ha
      rw [hput x,hv]
      exact .over c x hf
  | none =>
      have hcases : (∃ es key, v = .dict es ∧ s = .entry key) ∨
          ∃ xs i, v = .list xs ∧ s = .item i := by
        obtain ⟨es,hv,⟨hs,-⟩ | ⟨n,-,-,hs⟩⟩ | ⟨xs,i,hv,hs,-⟩ := writeSlot_cases h
        · exact Or.inl ⟨es,_,hv,hs⟩
        · exact Or.inl ⟨es,_,hv,hs⟩
        · exact Or.inr ⟨xs,i,hv,hs⟩
      cases hcases with
      | inl hdict =>
          obtain ⟨es,key,rfl,rfl⟩ := hdict
          obtain ⟨hinsert,habsent⟩ := insert_of_absent ha x
          rw [putSlot,hinsert]
          exact .entry x habsent
      | inr hlist =>
          obtain ⟨xs,i,rfl,rfl⟩ := hlist
          have hi : xs.length ≤ i := List.getElem?_eq_none_iff.mp ha
          rw [putSlot,padSet,if_neg (Nat.not_lt.mpr hi)]
          exact .item x hi

/-- The containers that keys call for, one in the other, around a value: a list for an
index, filled up with nulls below it, and a dictionary for a name. -/
def build (w : Value) : List Key → Value
  | [] => w
  | .index n :: ks => .list (List.replicate n .null ++ [build w ks])
  | .name t :: ks => .dict [((Key.name t).value,build w ks)]

/-- A write to a key of a new container makes it the only slot. -/
theorem putSlot_fresh (h : (fresh k).writeSlot k = .ok s) (x : Value) :
    (fresh k).putSlot s x = match k with
      | .index n => .list (List.replicate n .null ++ [x])
      | .name t => .dict [((Key.name t).value,x)] := by
  cases k with
  | index n =>
      rw [fresh,writeSlot,writePosition] at h
      split at h
      · cases h
      · cases h
        simp [fresh,putSlot,padSet]
  | name t =>
      obtain ⟨es,hes,⟨rfl,-⟩ | ⟨n,-,hn,-⟩⟩ | ⟨xs,i,hxs,-⟩ := writeSlot_cases h
      · rfl
      · cases hes
        cases hn
      · cases hxs

/-- By induction on the keys: a write into a new container builds up what is missing. -/
theorem Fills.eq_build (h : (fresh k).Fills (k :: ks) w u) : u = build w (k :: ks) := by
  induction ks generalizing k u with
  | nil =>
      obtain ⟨s,c,x,he,hx,rfl⟩ := fills_cons.mp h
      cases fills_nil.mp hx
      obtain ⟨-,-,-,hne⟩ | ⟨hs,-⟩ := entrance_cases he
      · exact (hne rfl).elim
      · rw [putSlot_fresh hs]
        cases k <;> rfl
  | cons next rest ih =>
      obtain ⟨s,c,x,he,hx,rfl⟩ := fills_cons.mp h
      obtain ⟨hr,hc,-⟩ | ⟨hs,hnil | ⟨next',rest',hks,rfl,-⟩⟩ := entrance_cases he
      · exact (get?_fresh_ne k c (get?_of_slot hr hc)).elim
      · cases hnil
      · cases hks
        rw [putSlot_fresh hs,ih hx]
        cases k <;> rfl

/-- Keys that lead through frames to a container, each to something other than null. -/
inductive Leads : Value → List Key → List Frame → Value → Prop
  | here (v : Value) : Leads v [] [] v
  | step {v c node : Value} {k : Key} {ks : List Key} {s : Slot} {f : Frame}
      {frames : List Frame} : v.child k = .ok (some s,c) → c.isNull = false → f.Opens s →
      v = f.plug c → Leads c ks frames node → Leads v (k :: ks) (f :: frames) node

theorem Leads.eq_plugAll {frames : List Frame} {node : Value}
    (h : v.Leads ks frames node) : v = Frame.plugAll frames node := by
  induction h with
  | here v => rfl
  | step _ _ _ hv _ ih => rw [hv,ih,Frame.plugAll,Frame.plugAll,List.foldr_cons]

/-- A value with another one written into it at keys, and otherwise as it was: the keys
lead through frames to a container, past all that is there and not null. Of that container
one slot changes, the one that a write resolves for the last key, or for the first that
leads to nothing or to null; it holds what the keys behind it call for. -/
def Changes (v : Value) (ks : List Key) (w u : Value) : Prop :=
  ∃ before k after frames node s node', ks = before ++ k :: after ∧
    v.Leads before frames node ∧ (after = [] ∨ node.found k = .ok .null) ∧
    node.writeSlot k = .ok s ∧ node.Puts s (build w after) node' ∧
    v = Frame.plugAll frames node ∧ u = Frame.plugAll frames node'

/-- A write that resolves its first key changes the slot of that key only. -/
theorem changes_here (hs : v.writeSlot k = .ok s) (hks : ks = [] ∨ v.found k = .ok .null)
    (w : Value) : v.Changes (k :: ks) w (v.putSlot s (build w ks)) :=
  ⟨[],k,ks,[],v,s,_,rfl,.here v,hks,hs,puts_putSlot hs _,rfl,rfl⟩

/-- A write that goes on from what is read at its first key changes only what it changes
there. -/
theorem changes_deeper (hr : v.readSlot k = .ok (some s)) (hc : v.atSlot? s = some c)
    (hn : c.isNull = false) (h : c.Changes ks w x) :
    v.Changes (k :: ks) w (v.putSlot s x) := by
  obtain ⟨f,hf,hv,hput⟩ := exists_frame hc
  have hchild : v.child k = .ok (some s,c) := by
    rw [child,hr]
    simp [bind,Except.bind,hc]
  obtain ⟨before,k',after,frames,node,t,node',rfl,hlead,hafter,ht,hputs,-,rfl⟩ := h
  have hleads : v.Leads (k :: before) (f :: frames) node := .step hchild hn hf hv hlead
  exact ⟨k :: before,k',after,f :: frames,node,t,node',rfl,hleads,hafter,ht,hputs,
    hleads.eq_plugAll,hput _⟩

/-- By induction on the keys: a step goes on inside a frame, until one resolves its key and
puts there all that the other keys build up. -/
theorem Fills.changes (h : v.Fills (k :: ks) w u) : v.Changes (k :: ks) w u := by
  induction ks generalizing v k u with
  | nil =>
      obtain ⟨s,c,x,he,hx,rfl⟩ := fills_cons.mp h
      cases fills_nil.mp hx
      obtain ⟨-,-,-,hne⟩ | ⟨hs,-⟩ := entrance_cases he
      · exact (hne rfl).elim
      · exact changes_here hs (Or.inl rfl) w
  | cons next rest ih =>
      obtain ⟨s,c,x,he,hx,rfl⟩ := fills_cons.mp h
      obtain ⟨hr,hc,hn,-⟩ | ⟨hs,hnil | ⟨next',rest',hks,rfl,hnull⟩⟩ := entrance_cases he
      · exact changes_deeper hr hc hn (ih hx)
      · cases hnil
      · cases hks
        have hfound : v.found k = .ok .null := by
          rw [← seen_singleton,seen]
          cases hnull with
          | inl hnone =>
              rw [hnone]
              rfl
          | inr hnull =>
              rw [hnull]
              rfl
        rw [hx.eq_build]
        exact changes_here hs (Or.inr hfound) w

end Value

namespace Path

/-- After a write at a path, which has keys then, the value is the one before but for one
slot, and but for the nulls that fill up a list which is too short for the slot. -/
theorem write_changes_one_slot {path : String} {v w : Value}
    (h : (write path v w).2 = .ok ()) :
    ∃ ks, keys? path = some ks ∧ v.Changes ks w (write path v w).1 := by
  obtain ⟨k,ks,hk,hf⟩ := fills_of_write h
  exact ⟨k :: ks,hk,hf.changes⟩

/-- A null on the way gives place to a list that is filled up for the index after it. -/
theorem write_changes_one_slot_null :
    let v : Value := .dict [(.text "a",.list [.dict [(.text "b",.null),(.text "c",.int 1)]]),
      (.text "d",.int 2)]
    let u : Value := .dict [(.text "a",.list [.dict [(.text "b",.list [.null,.text "x"]),
      (.text "c",.int 1)]]),(.text "d",.int 2)]
    write "a.0.b[1]" v (.text "x") = (u,.ok ()) ∧
      v.Changes [.name "a".toList,.name "0".toList,.name "b".toList,.index 1] (.text "x") u := by
  intro v u
  have hk : keys? "a.0.b[1]" =
      some [.name "a".toList,.name "0".toList,.name "b".toList,.index 1] := by
    with_unfolding_all rfl
  have hw : write "a.0.b[1]" v (.text "x") = (u,.ok ()) := by
    with_unfolding_all rfl
  obtain ⟨ks,hks,hchanges⟩ := write_changes_one_slot (congrArg Prod.snd hw)
  rw [hk] at hks
  cases hks
  rw [hw] at hchanges
  exact ⟨hw,hchanges⟩

end Path
end Vetting
