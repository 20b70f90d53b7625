import Vetting.Proofs.Place.Frame

/-!
# Rejected writes

A write is rejected if its path has no keys, or if on the way it comes to something that
takes no value at the next key: no container, a tuple, or a list at a name that is no
position. A rejected write leaves everything as it was. What carries this is that a new
container is made for the key that comes next, so that it takes a value there: once a write
has made one, none of the keys behind it is refused.
-/
namespace Vetting
open Text

namespace Value
variable {v w c : Value} {k : Key} {ks : List Key} {s : Slot} {f : Failure}

/-- Whether nothing can be put into a value at a key. -/
def Refuses : Value → Key → Prop
  | .dict _,_ => False
  | .list _,.index _ => False
  | .list _,.name t => isDigitText t = false
  | _,_ => True

/-- Whether keys lead to a value that refuses the next one of them, and the failure that
names both. -/
inductive Refused : Value → List Key → Failure → Prop
  | here {v : Value} {k : Key} {ks : List Key} : v.Refuses k →
      Refused v (k :: ks) (.cannotAssign k v.kind)
  | deeper {v c : Value} {k : Key} {ks : List Key} {f : Failure} :
      v.get? [k] = .ok (some c) → Refused c ks f → Refused v (k :: ks) f

/-! ## One step -/

theorem fault_of_writePosition {size : Nat} {n : Int} (h : writePosition size n = .error f) :
    ∃ e, f = .fault e := by
  unfold writePosition at h
  split at h
  · cases h
    exact ⟨_,rfl⟩
  · cases h

theorem fault_or_of_spelledIndex {t : List Char} {next : Int → Except Failure Slot}
    (h : orFail (spelledIndex t) >>= next = .error f) :
    (∃ e, f = .fault e) ∨ ∃ n, next n = .error f := by
  cases hs : spelledIndex t with
  | error e =>
      rw [hs] at h
      cases h
      exact Or.inl ⟨e,rfl⟩
  | ok n =>
      rw [hs] at h
      exact Or.inr ⟨n,h⟩

theorem writeSlot_of_refuses (h : v.Refuses k) :
    v.writeSlot k = .error (.cannotAssign k v.kind) := by
  cases v with
  | dict es => exact h.elim
  | list xs =>
      cases k with
      | index n => exact h.elim
      | name t =>
          have ht : isDigitText t = false := h
          rw [writeSlot,ht]
          rfl
  | _ => cases k <;> rfl

/-- What does not refuse a key is written to there, unless that runs into a fault. -/
theorem fault_of_writeSlot (hk : ¬ v.Refuses k) (h : v.writeSlot k = .error f) :
    ∃ e, f = .fault e := by
  cases v with
  | dict es =>
      cases k with
      | index n => cases h
      | name t =>
          rw [writeSlot] at h
          split at h
          · rcases fault_or_of_spelledIndex h with hf | ⟨n,hn⟩
            · exact hf
            · cases hn
          · cases h
  | list xs =>
      cases k with
      | index n => exact fault_of_writePosition h
      | name t =>
          rw [writeSlot,if_pos (by simpa [Refuses] using hk)] at h
          rcases fault_or_of_spelledIndex h with hf | ⟨n,hn⟩
          · exact hf
          · exact fault_of_writePosition hn
  | _ => exact (hk trivial).elim

/-- The ways in which a container is not written to. -/
theorem writeSlot_error_cases (h : v.writeSlot k = .error f) :
    (∃ e, f = .fault e) ∨ v.Refuses k ∧ f = .cannotAssign k v.kind := by
  by_cases hk : v.Refuses k
  · rw [writeSlot_of_refuses hk] at h
    cases h
    exact Or.inr ⟨hk,rfl⟩
  · exact Or.inl (fault_of_writeSlot hk h)

/-- The ways in which a step of a write fails. -/
theorem entrance_error_cases (h : v.entrance k ks = .error f) :
    (∃ e, f = .fault e) ∨ v.Refuses k ∧ f = .cannotAssign k v.kind := by
  have hwrite : ∀ {c : Value}, (v.writeSlot k).map (fun s => (s,c)) = .error f →
      v.writeSlot k = .error f := by
    intro c hm
    cases hs : v.writeSlot k with
    | ok s =>
        rw [hs] at hm
        cases hm
    | error g =>
        rw [hs] at hm
        cases hm
        rfl
  unfold entrance at h
  split at h
  · exact writeSlot_error_cases (hwrite h)
  · split at h
    · cases h
      exact Or.inl ⟨_,rfl⟩
    · split at h
      · exact writeSlot_error_cases (hwrite h)
      · cases h
    · exact writeSlot_error_cases (hwrite h)

/-! ## A whole write -/

theorem not_refuses_fresh (k : Key) : ¬ (fresh k).Refuses k := by
  cases k <;> exact id

/-- By induction on the keys: a write into a new container is not refused. -/
theorem fault_of_fill_fresh (h : ((fresh k).fill w (k :: ks)).2 = .error f) :
    ∃ e, f = .fault e := by
  induction ks generalizing k with
  | nil =>
      rw [fill_cons] at h
      split at h
      · rename_i he
        cases h
        exact (entrance_error_cases he).resolve_right fun hr => not_refuses_fresh k hr.1
      · cases h
  | cons next rest ih =>
      rw [fill_cons] at h
      split at h
      · rename_i he
        cases h
        exact (entrance_error_cases he).resolve_right fun hr => not_refuses_fresh k hr.1
      · rename_i s c he
        obtain ⟨hr,hc,-⟩ | ⟨-,hnil | ⟨next',rest',hks,rfl,-⟩⟩ := entrance_cases he
        · exact (get?_fresh_ne k c (get?_of_slot hr hc)).elim
        · cases hnil
        · cases hks
          exact ih h

/-- What a slot holds can be put back. -/
theorem putSlot_of_atSlot? (h : v.atSlot? s = some c) : v.putSlot s c = v := by
  obtain ⟨f,-,hv,hput⟩ := exists_frame h
  rw [hput c,← hv]

/-- By induction on the keys: as long as a step goes on from what is there, a refusal further
on leaves that as it was; and behind a step that makes a container there is none. -/
theorem fill_error_cases (h : (v.fill w ks).2 = .error f) :
    (∃ e, f = .fault e) ∨ (v.fill w ks).1 = v ∧ v.Refused ks f := by
  induction ks generalizing v with
  | nil => cases h
  | cons k rest ih =>
      rw [fill_cons] at h ⊢
      cases he : v.entrance k rest with
      | error g =>
          rw [he] at h
          cases h
          obtain hf | ⟨hk,rfl⟩ := entrance_error_cases he
          · exact Or.inl hf
          · exact Or.inr ⟨rfl,.here hk⟩
      | ok r =>
          obtain ⟨s,c⟩ := r
          rw [he] at h
          obtain ⟨hr,hc,-,-⟩ | ⟨-,rfl | ⟨next,more,rfl,rfl,-⟩⟩ := entrance_cases he
          · obtain hf | ⟨hkeep,href⟩ := ih h
            · exact Or.inl hf
            · refine Or.inr ⟨?_,.deeper (get?_of_slot hr hc) href⟩
              dsimp only
              rw [hkeep,putSlot_of_atSlot? hc]
          · cases h
          · exact Or.inl (fault_of_fill_fresh h)

end Value

namespace Path
variable {path : String} {v w : Value} {f : Failure}

/-- A write that is rejected, because its path has no keys or because a key is refused,
changes nothing. -/
theorem rejected_write_changes_nothing (h : (write path v w).2 = .error f)
    (hf : f = .emptyPath path ∨ f.family? = some .invalidContainer) :
    (write path v w).1 = v ∧ (keys? path = some [] ∧ f = .emptyPath path ∨
      ∃ ks, keys? path = some ks ∧ v.Refused ks f) := by
  have hfault : ¬ ∃ e, f = .fault e := by
    rintro ⟨e,rfl⟩
    rcases hf with hf | hf <;> cases hf
  cases hk : keys? path with
  | none =>
      rw [write,hk] at h
      cases h
      exact (hfault ⟨_,rfl⟩).elim
  | some ks =>
      cases ks with
      | nil =>
          rw [write,hk] at h ⊢
          cases h
          exact ⟨rfl,Or.inl ⟨rfl,rfl⟩⟩
      | cons k rest =>
          rw [write_eq_fill hk (List.cons_ne_nil k rest)] at h ⊢
          obtain ⟨hkeep,href⟩ := (Value.fill_error_cases h).resolve_left hfault
          exact ⟨hkeep,Or.inr ⟨_,rfl,href⟩⟩

/-- The list that is made for the index has no place to go to. -/
theorem rejected_write_changes_nothing_tags :
    let v : Value := .dict [(.text "tags",.list [.text "a"])]
    let f : Failure := .cannotAssign (.name "name".toList) .list
    (write "tags.name[2]" v (.text "x")).2 = .error f ∧
      (write "tags.name[2]" v (.text "x")).1 = v := by
  intro v f
  have h : (write "tags.name[2]" v (.text "x")).2 = .error f := by
    with_unfolding_all rfl
  exact ⟨h,(rejected_write_changes_nothing h (Or.inr rfl)).1⟩

end Path
end Vetting
