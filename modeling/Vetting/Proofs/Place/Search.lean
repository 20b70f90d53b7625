import Vetting.Proofs.Place.Commutation

/-!
# What paths lead to

A value holds another one at a key, and a row of keys leads from one value to the next. A
reading answers with the value that all keys lead to, or with the default if one of them is
missing on the way. It fails in two cases only: if an index of the path has more digits than
a number is read from, and if it looks in a dictionary for a name that is made of digit
signs but spells no integer, and that the dictionary does not have.
-/
namespace Vetting
open Text Number

/-- The integer that a key names a position by: an index itself, or what a name spells. -/
def Key.integer? : Key → Option Int
  | .index n => some n
  | .name t => readInt? t

namespace Value
variable {v w c d : Value} {k : Key} {ks ls : List Key} {s : Slot} {f : Fault}

/-- What a value holds at a key: a dictionary under the key, or else under the number that
it spells, and a list or a tuple at a position, counted from the front or from the end. -/
inductive Holds : Value → Key → Value → Prop
  | entry {es : List (Value × Value)} {k : Key} {c : Value} :
      lookup k.value es = some c → Holds (.dict es) k c
  | spelled {es : List (Value × Value)} {k : Key} {n : Int} {c : Value} : k.Spells n →
      lookup k.value es = none → lookup (.int n) es = some c → Holds (.dict es) k c
  | item {v : Value} {xs : List Value} {k : Key} {n : Int} {i : Nat} {c : Value} :
      v.items? = some xs → k.integer? = some n → (n = i ∨ n + xs.length = i) →
      xs[i]? = some c → Holds v k c

/-- Keys that lead from one value to another, each to what is held there. -/
inductive Reaches : Value → List Key → Value → Prop
  | here (v : Value) : Reaches v [] v
  | step {v c w : Value} {k : Key} {ks : List Key} : v.Holds k c → Reaches c ks w →
      Reaches v (k :: ks) w

/-- Keys one of which is missing where the ones before it lead to. -/
inductive Misses : Value → List Key → Prop
  | here {v : Value} {k : Key} {ks : List Key} : (∀ c, ¬ v.Holds k c) → Misses v (k :: ks)
  | deeper {v c : Value} {k : Key} {ks : List Key} : v.Holds k c → Misses c ks →
      Misses v (k :: ks)

/-- Keys one of which cannot be looked for: a name of digit signs that spells no integer,
where those before it lead to a dictionary that does not have it. -/
inductive Stumbles : Value → List Key → Prop
  | here {es : List (Value × Value)} {k : Key} {ks : List Key} : ¬ k.Legible →
      lookup k.value es = none → Stumbles (.dict es) (k :: ks)
  | deeper {v c : Value} {k : Key} {ks : List Key} : v.Holds k c → Stumbles c ks →
      Stumbles v (k :: ks)

/-! ## One key -/

theorem position?_eq_some_iff {size i : Nat} {n : Int} :
    position? size n = some i ↔ (n = i ∨ n + size = i) ∧ i < size := by
  have hm : ∀ m : Int, (if 0 ≤ m ∧ m < size then some m.toNat else none) = some i ↔
      m = i ∧ i < size := by
    intro m
    split
    · rw [Option.some.injEq]
      omega
    · simp only [reduceCtorEq,false_iff]
      omega
  unfold position?
  dsimp only
  rw [hm]
  split <;> omega

theorem readPosition?_eq_bind (size : Nat) (k : Key) :
    readPosition? size k = k.integer?.bind (position? size) := by
  cases k <;> rfl

theorem exists_slot_of_get? (h : v.get? [k] = .ok (some c)) :
    ∃ s, v.readSlot k = .ok (some s) ∧ v.atSlot? s = some c := by
  rw [get?] at h
  cases hr : v.readSlot k with
  | error f =>
      rw [hr] at h
      cases h
  | ok r =>
      rw [hr] at h
      cases r with
      | none => cases h
      | some s =>
          simp only [bind,Except.bind] at h
          cases hs : v.atSlot? s with
          | none =>
              rw [hs] at h
              cases h
          | some d =>
              rw [hs] at h
              cases h
              exact ⟨s,rfl,hs⟩

/-- A reading at one key finds what is held there. -/
theorem get?_singleton_eq_some_iff : v.get? [k] = .ok (some c) ↔ v.Holds k c := by
  constructor
  · intro h
    obtain ⟨s,hr,hs⟩ := exists_slot_of_get? h
    rcases readSlot_cases hr with
      ⟨es,rfl,⟨rfl,-⟩ | ⟨n,hk,hnone,-,rfl⟩⟩ | ⟨xs,i,hv,rfl,hi⟩
    · exact .entry hs
    · exact .spelled hk hnone hs
    · rw [readPosition?_eq_bind] at hi
      obtain ⟨n,hn,hi⟩ := Option.bind_eq_some_iff.mp hi
      obtain ⟨hn',-⟩ := position?_eq_some_iff.mp hi
      rcases hv with rfl | rfl
      · exact .item rfl hn hn' hs
      · exact .item rfl hn hn' hs
  · intro h
    cases h with
    | entry hl =>
        apply get?_of_slot (readSlot_of_present _) hl
        rw [hl]
        rfl
    | spelled hk hnone hl =>
        apply get?_of_slot (readSlot_of_spelled hk hnone _) hl
        rw [hl]
        rfl
    | @item _ xs _ n i _ hv hn hi hc =>
        have hlt : i < xs.length := (List.getElem?_eq_some_iff.mp hc).choose
        have hr : readPosition? xs.length k = some i := by
          rw [readPosition?_eq_bind,hn]
          exact position?_eq_some_iff.mpr ⟨hi,hlt⟩
        cases v with
        | list ys =>
            cases hv
            exact get?_of_slot (readSlot_list hr) hc
        | tuple ys =>
            cases hv
            exact get?_of_slot (readSlot_tuple hr) hc
        | _ => cases hv

/-- What a dictionary with a single entry under a text holds. -/
theorem eq_of_holds_entry {t : String}
    (h : (Value.dict [(.text t,v)]).Holds k c) : k = .name t.toList ∧ c = v := by
  have hint : ∀ n, lookup (.int n) [(.text t,v)] = none := by
    intro n
    simp [lookup,sameKey,equal,equalsNumber,number?,Except.toOption]
  cases h with
  | entry hl =>
      cases k with
      | index n => cases (hint n).symm.trans hl
      | name s =>
          by_cases hs : sameKey (Key.name s).value (.text t) = true
          · rw [lookup,if_pos hs] at hl
            obtain rfl := Value.text.inj (sameKey_text.mp hs)
            exact ⟨by simp,(Option.some.inj hl).symm⟩
          · rw [lookup,if_neg hs] at hl
            cases hl
  | spelled _ _ hl => cases (hint _).symm.trans hl
  | item hv => cases hv

/-- A reading at one key fails where the key cannot be looked for. -/
theorem get?_singleton_eq_error_iff : v.get? [k] = .error f ↔
    f = .badValue ∧ ¬ k.Legible ∧ ∃ es, v = .dict es ∧ lookup k.value es = none := by
  have hslot : v.get? [k] = .error f ↔ v.readSlot k = .error f := by
    rw [get?]
    cases hr : v.readSlot k with
    | error g => simp [bind,Except.bind]
    | ok r =>
        cases r with
        | none => simp [bind,Except.bind]
        | some s =>
            simp only [bind,Except.bind]
            cases v.atSlot? s <;> simp [get?]
  rw [hslot]
  constructor
  · intro h
    unfold readSlot at h
    split at h
    · rename_i es
      split at h
      · cases h
      · rename_i hl
        split at h
        · cases h
        · rename_i t
          split at h
          · rename_i ht
            unfold spelledIndex at h
            split at h
            · cases h
            · rename_i hn
              cases h
              exact ⟨rfl,fun hk => hk ht hn,es,rfl,by simpa using hl⟩
          · cases h
    · cases h
    · cases h
    · cases h
  · rintro ⟨rfl,hk,es,rfl,hl⟩
    cases k with
    | index n => exact (hk trivial).elim
    | name t =>
        have ht : isDigitText t = true ∧ readInt? t = none := by
          by_contra hno
          exact hk fun ht hn => hno ⟨ht,hn⟩
        rw [readSlot,hl]
        simp [spelledIndex,ht.1,ht.2,bind,Except.bind]

/-! ## A row of keys -/

/-- A reading at a row of keys goes on from what it has found at the first. -/
theorem get?_cons (v : Value) (k : Key) (ks : List Key) :
    v.get? (k :: ks) = (v.get? [k]).bind fun r => r.elim (.ok none) (·.get? ks) := by
  rw [get?,get?]
  cases v.readSlot k with
  | error f => rfl
  | ok r =>
      cases r with
      | none => rfl
      | some s =>
          simp only [bind,Except.bind]
          cases v.atSlot? s <;> rfl

/-- A reading at two rows of keys goes on with the second from what it has found at the
first. -/
theorem get?_append (v : Value) (ks ls : List Key) :
    v.get? (ks ++ ls) = (v.get? ks).bind fun r => r.elim (.ok none) (·.get? ls) := by
  induction ks generalizing v with
  | nil => rfl
  | cons k rest ih =>
      rw [List.cons_append,get?_cons,get?_cons v k rest]
      cases v.get? [k] with
      | error f => rfl
      | ok r =>
          cases r with
          | none => rfl
          | some c => exact ih c

/-- By induction on the keys: a reading finds what all of them lead to. -/
theorem get?_eq_some_iff : v.get? ks = .ok (some w) ↔ v.Reaches ks w := by
  induction ks generalizing v with
  | nil =>
      constructor
      · intro h
        cases h
        exact .here _
      · intro h
        cases h
        rfl
  | cons k rest ih =>
      constructor
      · intro h
        rw [get?_cons] at h
        cases hc : v.get? [k] with
        | error f =>
            rw [hc] at h
            cases h
        | ok r =>
            rw [hc] at h
            cases r with
            | none => cases h
            | some c => exact .step (get?_singleton_eq_some_iff.mp hc) (ih.mp h)
      · intro h
        cases h with
        | step hc hw =>
            rw [get?_cons_of_some (get?_singleton_eq_some_iff.mpr hc)]
            exact ih.mpr hw

/-- By induction on the keys: a reading fails at the first of them that cannot be looked
for. -/
theorem get?_eq_error_iff : v.get? ks = .error f ↔ f = .badValue ∧ v.Stumbles ks := by
  induction ks generalizing v with
  | nil =>
      constructor
      · intro h
        cases h
      · rintro ⟨-,h⟩
        cases h
  | cons k rest ih =>
      constructor
      · intro h
        rw [get?_cons] at h
        cases hc : v.get? [k] with
        | error g =>
            rw [hc] at h
            cases h
            obtain ⟨hf,hk,es,rfl,hl⟩ := get?_singleton_eq_error_iff.mp hc
            exact ⟨hf,.here hk hl⟩
        | ok r =>
            rw [hc] at h
            cases r with
            | none => cases h
            | some c =>
                obtain ⟨hf,hs⟩ := ih.mp h
                exact ⟨hf,.deeper (get?_singleton_eq_some_iff.mp hc) hs⟩
      · rintro ⟨rfl,h⟩
        cases h with
        | here hk hl =>
            rw [get?_cons,get?_singleton_eq_error_iff.mpr ⟨rfl,hk,_,rfl,hl⟩]
            rfl
        | deeper hc hs =>
            rw [get?_cons_of_some (get?_singleton_eq_some_iff.mpr hc)]
            exact ih.mpr ⟨rfl,hs⟩

/-- One of the keys is missing if they lead to nothing. -/
theorem misses_iff : v.Misses ks ↔ ∀ w, ¬ v.Reaches ks w := by
  induction ks generalizing v with
  | nil =>
      constructor
      · intro h
        cases h
      · intro h
        exact (h v (.here v)).elim
  | cons k rest ih =>
      constructor
      · intro h w hw
        cases hw with
        | step hc hw =>
            cases h with
            | here hno => exact hno _ hc
            | deeper hd hm =>
                -- What is held at a key is what is read there, and so only one value.
                have hcd := get?_singleton_eq_some_iff.mpr hc
                rw [get?_singleton_eq_some_iff.mpr hd] at hcd
                cases hcd
                exact ih.mp hm w hw
      · intro h
        by_cases hk : ∃ c, v.Holds k c
        · obtain ⟨c,hc⟩ := hk
          exact .deeper hc (ih.mpr fun w hw => h w (.step hc hw))
        · exact .here fun c hc => hk ⟨c,hc⟩

/-- A reading that does not fail finds nothing if one of the keys is missing. -/
theorem get?_of_misses (h : v.Misses ks) (hs : ¬ v.Stumbles ks) : v.get? ks = .ok none := by
  cases hr : v.get? ks with
  | error f => exact (hs (get?_eq_error_iff.mp hr).2).elim
  | ok r =>
      cases r with
      | none => rfl
      | some w => exact (misses_iff.mp h w (get?_eq_some_iff.mp hr)).elim

end Value

namespace Path
variable {path : String} {v w default : Value} {ks : List Key}

/-- Whether every index of a path has at most as many digits as a number is read from. -/
def Sized (path : String) : Prop := ∀ ds, .inr ds ∈ tokens path.toList → ds.length ≤ digitLimit

theorem key?_isSome_iff {t : List Char ⊕ List Nat} :
    (key? t).isSome ↔ ∀ ds, t = .inr ds → ds.length ≤ digitLimit := by
  cases t with
  | inl s => simp [key?]
  | inr ds => by_cases hd : ds.length ≤ digitLimit <;> simp [key?,hd]

theorem keys?_isSome_iff : (keys? path).isSome ↔ Sized path := by
  have hall : ∀ ts : List (List Char ⊕ List Nat), (ts.mapM key?).isSome ↔
      ∀ t ∈ ts, (key? t).isSome := by
    intro ts
    induction ts with
    | nil => simp
    | cons t rest ih =>
        rw [List.mapM_cons,List.forall_mem_cons,← ih]
        cases key? t <;> cases rest.mapM key? <;> simp
  rw [keys?,hall]
  simp only [key?_isSome_iff]
  constructor
  · exact fun h ds hd => h _ hd ds rfl
  · rintro h t ht ds rfl
    exact h ds ht

/-- Whether all keys of a path lead from one value to another. -/
def Resolves (path : String) (v w : Value) : Prop := ∃ ks, keys? path = some ks ∧ v.Reaches ks w

/-- Whether one of the keys of a path is missing. -/
def Lacks (path : String) (v : Value) : Prop := ∃ ks, keys? path = some ks ∧ v.Misses ks

/-- Whether all that a path says can be looked for in a value. -/
def Followable (path : String) (v : Value) : Prop :=
  Sized path ∧ ∀ ks, keys? path = some ks → ¬ v.Stumbles ks

/-- Whether a reading gives the answer that is promised of it: the value that the path
resolves to, or the default if one of its keys is missing. -/
def Answered (path : String) (v default : Value) : Prop :=
  (∃ w, Resolves path v w ∧ read path v default = .ok w) ∨
    Lacks path v ∧ read path v default = .ok default

theorem read_of_resolves (h : Resolves path v w) (default : Value) :
    read path v default = .ok w := by
  obtain ⟨ks,hk,hw⟩ := h
  rw [read_of_keys hk,Value.get?_eq_some_iff.mpr hw]
  rfl

theorem read_null_cases (h : read path v .null = .ok w) : w = .null ∨ Resolves path v w := by
  rw [read] at h
  split at h
  · cases h
  · rename_i ks hk
    cases hr : v.get? ks with
    | error f =>
        rw [hr] at h
        cases h
    | ok r =>
        rw [hr] at h
        cases r with
        | none =>
            cases h
            exact Or.inl rfl
        | some y =>
            cases h
            exact Or.inr ⟨ks,hk,Value.get?_eq_some_iff.mp hr⟩

theorem read_of_lacks (h : Lacks path v) (hf : Followable path v) (default : Value) :
    read path v default = .ok default := by
  obtain ⟨ks,hk,hm⟩ := h
  rw [read_of_keys hk,Value.get?_of_misses hm (hf.2 ks hk)]
  rfl

theorem answered_of_followable (h : Followable path v) (default : Value) :
    Answered path v default := by
  obtain ⟨ks,hk⟩ := Option.isSome_iff_exists.mp (keys?_isSome_iff.mpr h.1)
  by_cases hw : ∃ w, v.Reaches ks w
  · obtain ⟨w,hw⟩ := hw
    have hresolves : Resolves path v w := ⟨ks,hk,hw⟩
    exact Or.inl ⟨w,hresolves,read_of_resolves hresolves default⟩
  · have hlacks : Lacks path v := ⟨ks,hk,Value.misses_iff.mpr fun w h => hw ⟨w,h⟩⟩
    exact Or.inr ⟨hlacks,read_of_lacks hlacks h default⟩

theorem read_of_not_followable (h : ¬ Followable path v) (default : Value) :
    read path v default = .error .badValue := by
  cases hk : keys? path with
  | none => rw [read,hk]
  | some ks =>
      have hs : v.Stumbles ks := by
        by_contra hs
        refine h ⟨keys?_isSome_iff.mp (by rw [hk]; rfl),?_⟩
        intro ls hl
        rw [hk] at hl
        cases hl
        exact hs
      rw [read_of_keys hk,Value.get?_eq_error_iff.mpr ⟨rfl,hs⟩]
      rfl

/-- A reading answers as promised exactly where all that its path says can be looked for,
and fails exactly where it cannot. -/
theorem read_answers_iff (path : String) (v default : Value) :
    (Answered path v default ↔ Followable path v) ∧
      (read path v default = .error .badValue ↔ ¬ Followable path v) := by
  have hexclusive : Answered path v default → read path v default ≠ .error .badValue := by
    rintro (⟨w,-,hr⟩ | ⟨-,hr⟩) he
    · rw [hr] at he
      cases he
    · rw [hr] at he
      cases he
  constructor
  · constructor
    · intro ha
      by_contra h
      exact hexclusive ha (read_of_not_followable h default)
    · exact fun h => answered_of_followable h default
  · constructor
    · exact fun he h => hexclusive (answered_of_followable h default) he
    · exact fun h => read_of_not_followable h default

/-- A superscript is a digit sign, so that a dictionary without it is searched for a number
that it does not spell. -/
theorem read_superscript_fails : Lacks "²" (.dict []) ∧
    read "²" (.dict []) .null = .error .badValue := by
  have hk : keys? "²" = some [.name ['²']] := by
    with_unfolding_all rfl
  refine ⟨⟨_,hk,.here ?_⟩,by with_unfolding_all rfl⟩
  intro c hc
  cases hc with
  | entry hl => cases hl
  | spelled _ _ hl => cases hl
  | item hv => cases hv

end Path
end Vetting
