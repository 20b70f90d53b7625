import Vetting.Proofs.Place.Slot

/-!
# Writes step by step

A write at a row of keys enters a slot at its first key, and goes on from the value there
or from a new container. `Value.entrance` is that one step, and `Value.Fills` a write that
comes to its end: by `fills_cons` it is a step with a shorter write. Properties of writes
follow by induction on the keys from what a step does.
-/
namespace Vetting

namespace Value
variable {v u w c x : Value} {k next : Key} {ks : List Key} {s t : Slot}

/-- A reading at a first key, and at the others from what was found there. -/
theorem get?_cons_of_some (h : v.get? [k] = .ok (some c)) : v.get? (k :: ks) = c.get? ks := by
  rw [get?] at h ⊢
  cases hr : v.readSlot k with
  | error f =>
      rw [hr] at h
      cases h
  | ok r =>
      rw [hr] at h
      cases r with
      | none => cases h
      | some s =>
          simp only [bind,Except.bind] at h ⊢
          cases hs : v.atSlot? s with
          | none =>
              rw [hs] at h
              cases h
          | some d =>
              rw [hs] at h
              cases h
              rfl

theorem get?_of_slot (h : v.readSlot k = .ok (some s)) (hs : v.atSlot? s = some c) :
    v.get? [k] = .ok (some c) := by
  rw [get?,h]
  simp only [bind,Except.bind,hs]
  rfl

theorem get?_null (k : Key) (ks : List Key) : Value.null.get? (k :: ks) = .ok none := rfl

/-- The slot that a write at a row of keys enters first, and the value that the rest of
the keys goes on from. -/
def entrance (v : Value) (k : Key) : List Key → Except Failure (Slot × Value)
  | [] => (v.writeSlot k).map fun s => (s,.null)
  | next :: _ =>
      match v.child k with
      | .error f => .error (.fault f)
      | .ok (some s,found) =>
          if found.isNull then (v.writeSlot k).map fun s => (s,fresh next)
          else .ok (s,found)
      | .ok (none,_) => (v.writeSlot k).map fun s => (s,fresh next)

/-- Nothing is read in a container that has just been made. -/
theorem get?_fresh_ne (k : Key) (c : Value) : (fresh k).get? [k] ≠ .ok (some c) := by
  intro h
  cases k with
  | index n =>
      have hr : (fresh (.index n)).readSlot (.index n) = .ok none := by
        simp [fresh,Value.readSlot,readPosition?,position?]
      rw [get?,hr] at h
      cases h
  | name t =>
      rw [get?] at h
      cases hr : (fresh (.name t)).readSlot (.name t) with
      | error f =>
          rw [hr] at h
          cases h
      | ok r =>
          cases r with
          | none =>
              rw [hr] at h
              cases h
          | some s =>
              rcases readSlot_cases hr with ⟨es,hes,hl⟩ | ⟨xs,i,hx,-⟩
              · cases hes
                rcases hl with ⟨-,hl⟩ | ⟨n,-,-,hl,-⟩
                · cases hl
                · cases hl
              · rcases hx with hx | hx <;> cases hx

/-- A value with another one written into it; at no keys at all, the other one itself. -/
def fill (v w : Value) : List Key → Value × Except Failure Unit
  | [] => (w,.ok ())
  | k :: ks => v.setAt w (k :: ks)

theorem fill_cons (v w : Value) (k : Key) (ks : List Key) :
    v.fill w (k :: ks) = match v.entrance k ks with
      | .error f => (v,.error f)
      | .ok (s,c) => (v.putSlot s (c.fill w ks).1,(c.fill w ks).2) := by
  cases ks with
  | nil =>
      rw [fill,setAt,entrance]
      cases v.writeSlot k <;> rfl
  | cons next rest =>
      rw [fill,setAt,entrance]
      cases v.child k with
      | error f => rfl
      | ok r =>
          obtain ⟨read,found⟩ := r
          cases read with
          | none => cases v.writeSlot k <;> rfl
          | some s =>
              cases hn : found.isNull with
              | false => simp [hn,fill]
              | true =>
                  dsimp only
                  cases v.writeSlot k <;> simp [hn,fill,Except.map]

/-- A write that comes to its end, and the value that it leaves. -/
def Fills (v : Value) (ks : List Key) (w u : Value) : Prop := v.fill w ks = (u,.ok ())

theorem fills_nil : v.Fills [] w u ↔ w = u := by
  simp [Fills,fill]

theorem fills_cons : v.Fills (k :: ks) w u ↔
    ∃ s c x, v.entrance k ks = .ok (s,c) ∧ c.Fills ks w x ∧ u = v.putSlot s x := by
  unfold Fills
  rw [fill_cons]
  constructor
  · intro h
    split at h
    · cases h
    · rename_i s c he
      obtain ⟨hu,hok⟩ := Prod.mk.inj h
      exact ⟨s,c,_,he,Prod.ext rfl hok,hu.symm⟩
  · rintro ⟨s,c,x,he,hx,rfl⟩
    rw [he]
    dsimp only
    rw [hx]

/-- A write goes on from what is read at the key, or it resolves the key itself, as the
last one or because nothing is read there. -/
theorem entrance_cases (h : v.entrance k ks = .ok (s,c)) :
    (v.readSlot k = .ok (some s) ∧ v.atSlot? s = some c ∧ c.isNull = false ∧ ks ≠ []) ∨
    (v.writeSlot k = .ok s ∧ (ks = [] ∨ ∃ next rest, ks = next :: rest ∧ c = fresh next ∧
      (v.get? [k] = .ok none ∨ v.get? [k] = .ok (some .null)))) := by
  cases ks with
  | nil =>
      rw [entrance] at h
      cases hs : v.writeSlot k with
      | error f =>
          rw [hs] at h
          cases h
      | ok t =>
          rw [hs] at h
          cases h
          exact Or.inr ⟨rfl,Or.inl rfl⟩
  | cons next rest =>
      have hmake : (v.writeSlot k).map (fun s => (s,fresh next)) = .ok (s,c) →
          v.writeSlot k = .ok s ∧ c = fresh next := by
        intro hm
        cases hs : v.writeSlot k with
        | error f =>
            rw [hs] at hm
            cases hm
        | ok t =>
            rw [hs] at hm
            cases hm
            exact ⟨rfl,rfl⟩
      rw [entrance,child] at h
      rw [get?]
      cases hr : v.readSlot k with
      | error f =>
          rw [hr] at h
          cases h
      | ok r =>
          rw [hr] at h
          simp only [bind,Except.bind] at h ⊢
          cases r with
          | none =>
              obtain ⟨hs,hc⟩ := hmake h
              exact Or.inr ⟨hs,Or.inr ⟨next,rest,rfl,hc,Or.inl rfl⟩⟩
          | some t =>
              dsimp only at h ⊢
              cases ha : v.atSlot? t with
              | none =>
                  rw [ha] at h
                  obtain ⟨hs,hc⟩ := hmake h
                  exact Or.inr ⟨hs,Or.inr ⟨next,rest,rfl,hc,Or.inl rfl⟩⟩
              | some d =>
                  rw [ha,Option.getD_some] at h
                  cases hn : d.isNull with
                  | true =>
                      rw [hn,if_pos rfl] at h
                      obtain ⟨hs,hc⟩ := hmake h
                      have hd : d = .null := by cases d <;> first | rfl | cases hn
                      refine Or.inr ⟨hs,Or.inr ⟨next,rest,rfl,hc,Or.inr ?_⟩⟩
                      rw [hd]
                      rfl
                  | false =>
                      rw [hn] at h
                      cases h
                      exact Or.inl ⟨rfl,ha,hn,List.cons_ne_nil _ _⟩

theorem fits_of_entrance (h : v.entrance k ks = .ok (s,c)) : v.Fits s := by
  rcases entrance_cases h with ⟨hr,-⟩ | ⟨hw,-⟩
  · exact fits_of_readSlot hr
  · exact fits_of_writeSlot hw

end Value

namespace Path
variable {path : String} {ks : List Key}

theorem read_of_keys (h : keys? path = some ks) (v default : Value) :
    read path v default = (v.get? ks).map (·.getD default) := by
  rw [read,h]

theorem write_eq_fill (h : keys? path = some ks) (hks : ks ≠ []) (v w : Value) :
    write path v w = v.fill w ks := by
  cases ks with
  | nil => exact (hks rfl).elim
  | cons k rest =>
      rw [write,h]
      rfl

end Path

end Vetting
