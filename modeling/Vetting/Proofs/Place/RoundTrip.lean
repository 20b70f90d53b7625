import Vetting.Proofs.Place.Descent

/-!
# Reading what has been written

What has been written at a path is read there, but for one case. Where a dictionary on the
way has a name as well as the number that it spells, a write that resolves the name goes
to the number, and a reading stays with the name. Such a write is eclipsed: it is not seen
at its own path, where everything reads as before.
-/
namespace Vetting

namespace Value
variable {v u w c : Value} {k next : Key} {ks : List Key} {s : Slot}

/-- Whether a write at keys resolves one of them in a dictionary that has it twice. Keys
are resolved by a write at the end, and where a null is in the way. -/
inductive Eclipsed : Value → List Key → Prop
  | here {v : Value} {k : Key} {ks : List Key} : v.HasBoth k →
      (ks = [] ∨ v.get? [k] = .ok (some .null)) → Eclipsed v (k :: ks)
  | deeper {v c : Value} {k : Key} {ks : List Key} : v.get? [k] = .ok (some c) →
      Eclipsed c ks → Eclipsed v (k :: ks)

theorem HasBoth.readSlot (h : v.HasBoth k) : v.readSlot k = .ok (some (.entry k.value)) := by
  obtain ⟨es,n,rfl,-,hk,-⟩ := h
  exact readSlot_of_present hk

theorem HasBoth.exists_get? (h : v.HasBoth k) : ∃ c, v.get? [k] = .ok (some c) := by
  have hr := h.readSlot
  obtain ⟨es,n,rfl,-,hk,-⟩ := h
  obtain ⟨c,hc⟩ := Option.isSome_iff_exists.mp hk
  exact ⟨c,get?_of_slot hr hc⟩

/-- A write that resolves a name to its number leaves what is read at the name. -/
theorem HasBoth.get?_putSlot (h : v.HasBoth k) (hs : v.writeSlot k = .ok s) (w : Value)
    (ks : List Key) : (v.putSlot s w).get? (k :: ks) = v.get? (k :: ks) := by
  obtain ⟨es,n,rfl,hn,hk,hi⟩ := h
  have hslot : ∃ m, k.Spells m ∧ s = .entry (.int m) := by
    rcases writeSlot_cases hs with ⟨fs,hf,⟨-,hno⟩ | ⟨m,hm,-,rfl⟩⟩ | ⟨xs,i,hx,-⟩
    · cases hf
      rw [hno n hn] at hi
      cases hi
    · exact ⟨m,hm,rfl⟩
    · cases hx
  obtain ⟨m,hm,rfl⟩ := hslot
  obtain ⟨c,hc⟩ := Option.isSome_iff_exists.mp hk
  have hl : lookup k.value (insert (.int m) w es) = some c := by
    rw [lookup_insert_of_distinct hm.distinct (sameKey_int_self m),hc]
  have hnew : (Value.dict (insert (.int m) w es)).readSlot k =
      .ok (some (.entry k.value)) := by
    apply readSlot_of_present
    rw [hl]
    rfl
  rw [get?_cons_of_some (get?_of_slot (readSlot_of_present hk) hc),putSlot,
    get?_cons_of_some (get?_of_slot hnew hl)]

theorem not_eclipsed_nil (v : Value) : ¬ v.Eclipsed [] := by
  intro h
  cases h

theorem not_eclipsed_fresh (k : Key) (ks : List Key) : ¬ (fresh k).Eclipsed (k :: ks) := by
  intro h
  cases h with
  | here hb _ =>
      obtain ⟨c,hc⟩ := hb.exists_get?
      exact get?_fresh_ne k c hc
  | deeper hc _ => exact get?_fresh_ne k _ hc

theorem not_eclipsed_null (ks : List Key) : ¬ Value.null.Eclipsed ks := by
  intro h
  cases h with
  | here hb _ =>
      obtain ⟨es,n,hes,-⟩ := hb
      cases hes
  | deeper hc _ =>
      rw [get?_null] at hc
      cases hc

/-- By induction on the keys: where a write enters, a reading enters afterwards. -/
theorem Fills.get?_self (h : v.Fills ks w u) (hn : ¬ v.Eclipsed ks) :
    u.get? ks = .ok (some w) := by
  induction ks generalizing v u with
  | nil =>
      rw [fills_nil] at h
      rw [h]
      rfl
  | cons k rest ih =>
      obtain ⟨s,c,x,he,hx,rfl⟩ := fills_cons.mp h
      have hat := (fits_of_entrance he).atSlot?_putSlot x
      have hread : (v.putSlot s x).readSlot k = .ok (some s) ∧ ¬ c.Eclipsed rest := by
        rcases entrance_cases he with ⟨hr,hc,-,-⟩ | ⟨hs,hrest⟩
        · constructor
          · exact readSlot_putSlot_of_readSlot hr x
          · exact fun hb => hn (.deeper (get?_of_slot hr hc) hb)
        · have hb : ¬ v.HasBoth k := by
            intro hb
            obtain ⟨d,hd⟩ := hb.exists_get?
            apply hn
            refine .here hb ?_
            rcases hrest with hnil | ⟨next,more,-,-,hnone | hnull⟩
            · exact Or.inl hnil
            · rw [hd] at hnone
              cases hnone
            · exact Or.inr hnull
          refine ⟨readSlot_putSlot_of_writeSlot hs hb x,?_⟩
          rcases hrest with rfl | ⟨next,more,rfl,rfl,-⟩
          · exact not_eclipsed_nil c
          · exact not_eclipsed_fresh next more
      obtain ⟨hread,hrest⟩ := hread
      rw [get?_cons_of_some (get?_of_slot hread hat)]
      exact ih hx hrest

/-- By induction on the way to the dictionary that has a key twice. -/
theorem Fills.get?_of_eclipsed (h : v.Fills ks w u) (he : v.Eclipsed ks) :
    u.get? ks = v.get? ks := by
  induction he generalizing u with
  | @here v k rest hb hend =>
      obtain ⟨s,c,x,he,-,rfl⟩ := fills_cons.mp h
      rcases entrance_cases he with ⟨hr,hc,hnull,hrest⟩ | ⟨hs,-⟩
      · rw [get?_of_slot hr hc] at hend
        cases hend.resolve_left hrest
        cases hnull
      · exact hb.get?_putSlot hs x rest
  | @deeper v d k rest hd hrest ih =>
      obtain ⟨s,c,x,he,hx,rfl⟩ := fills_cons.mp h
      have hat := (fits_of_entrance he).atSlot?_putSlot x
      rcases entrance_cases he with ⟨hr,hc,-,-⟩ | ⟨-,hend⟩
      · have hcd := get?_of_slot hr hc
        rw [hd] at hcd
        cases hcd
        rw [get?_cons_of_some hd,
          get?_cons_of_some (get?_of_slot (readSlot_putSlot_of_readSlot hr x) hat)]
        exact ih hx
      · rcases hend with rfl | ⟨next,more,-,-,hnone | hnull⟩
        · exact (not_eclipsed_nil d hrest).elim
        · rw [hd] at hnone
          cases hnone
        · rw [hd] at hnull
          cases hnull
          exact (not_eclipsed_null rest hrest).elim

end Value

namespace Path
variable {path : String} {v w u : Value} {k : Key} {ks : List Key}

/-- A write that comes to its end has keys to follow. -/
theorem fills_of_write (h : (write path v w).2 = .ok ()) :
    ∃ k ks, keys? path = some (k :: ks) ∧ v.Fills (k :: ks) w (write path v w).1 := by
  cases hk : keys? path with
  | none =>
      rw [write,hk] at h
      cases h
  | some ks =>
      cases ks with
      | nil =>
          rw [write,hk] at h
          cases h
      | cons k rest =>
          refine ⟨k,rest,rfl,?_⟩
          rw [write_eq_fill hk (List.cons_ne_nil k rest)] at h ⊢
          exact Prod.ext rfl h

/-- After a write at a path, the value written is read there, unless the write is
eclipsed: then the same is read as before. -/
theorem read_write (v w default : Value) (h : (write path v w).2 = .ok ()) :
    ∃ ks, keys? path = some ks ∧
      (¬ v.Eclipsed ks → read path (write path v w).1 default = .ok w) ∧
      (v.Eclipsed ks → read path (write path v w).1 default = read path v default) := by
  obtain ⟨k,rest,hk,hf⟩ := fills_of_write h
  refine ⟨k :: rest,hk,?_,?_⟩
  · intro hn
    rw [read_of_keys hk,hf.get?_self hn]
    rfl
  · intro he
    rw [read_of_keys hk,read_of_keys hk,hf.get?_of_eclipsed he]

/-- A dictionary in a list has the number 5 only, and the path spells it. -/
theorem read_write_item :
    let v : Value := .dict [(.text "items",.list [.null,.dict [(.int 5,.null)]])]
    let u : Value := .dict [(.text "items",.list [.null,.dict [(.int 5,.text "x")]])]
    write "items[1].5" v (.text "x") = (u,.ok ()) ∧
      read "items[1].5" u (.bool false) = .ok (.text "x") := by
  intro v u
  have hk : keys? "items[1].5" = some [.name "items".toList,.index 1,.name "5".toList] := by
    with_unfolding_all rfl
  have hw : write "items[1].5" (.dict [(.text "items",.list [.null,.dict [(.int 5,.null)]])])
      (.text "x") = (.dict [(.text "items",.list [.null,.dict [(.int 5,.text "x")]])],
        .ok ()) := by
    with_unfolding_all rfl
  have hlist : v.get? [.name "items".toList] =
      .ok (some (.list [.null,.dict [(.int 5,.null)]])) := by
    with_unfolding_all rfl
  have hdict : (Value.list [.null,.dict [(.int 5,.null)]]).get? [.index 1] =
      .ok (some (.dict [(.int 5,.null)])) := by
    with_unfolding_all rfl
  have hn : ¬ v.Eclipsed [.name "items".toList,.index 1,.name "5".toList] := by
    intro h
    cases h with
    | here hb hend =>
        rw [hlist] at hend
        rcases hend with hend | hend <;> cases hend
    | deeper hc h =>
        rw [hlist] at hc
        cases hc
        cases h with
        | here hb _ =>
            obtain ⟨es,n,hes,-⟩ := hb
            cases hes
        | deeper hc h =>
            rw [hdict] at hc
            cases hc
            cases h with
            | here hb _ =>
                obtain ⟨es,n,hes,-,hl,-⟩ := hb
                cases hes
                have hnone : Value.lookup (Key.name "5".toList).value [(.int 5,.null)] =
                    none := by
                  with_unfolding_all rfl
                rw [hnone] at hl
                cases hl
            | deeper _ h => exact Value.not_eclipsed_nil _ h
  obtain ⟨ks,hks,hread,-⟩ := read_write v (.text "x") (.bool false) (congrArg Prod.snd hw)
  rw [hk] at hks
  cases hks
  exact ⟨hw,(congrArg (read "items[1].5" · (.bool false)) (congrArg Prod.fst hw)).symm.trans
    (hread hn)⟩

/-- The write goes to the number 5, and the reading to the text. -/
theorem write_read_ne :
    write "5" (.dict [(.text "5",.int 1),(.int 5,.int 2)]) (.int 9) =
        (.dict [(.text "5",.int 1),(.int 5,.int 9)],.ok ()) ∧
      read "5" (.dict [(.text "5",.int 1),(.int 5,.int 9)]) .null = .ok (.int 1) := by
  constructor
  · with_unfolding_all rfl
  · with_unfolding_all rfl

end Path

end Vetting
