import Vetting.Proofs.Value.Likeness

/-!
# Equality in both directions

In a value as it can be built, members of a set and keys of a dictionary can be keys, and
differ from each other. Then equality in one direction is equality in the other one: as many
members as there are on the other side, each the same as one of these, leave none of them out.
-/
namespace Vetting

namespace Value

/-- Values as they can be built: the members of a set and the keys of a dictionary can be
keys, and no two of them are the same. -/
inductive WellFormed : Value → Prop
  | scalar {v : Value} (h : v.isScalar = true) : WellFormed v
  | list {xs : List Value} (h : ∀ x ∈ xs, WellFormed x) : WellFormed (.list xs)
  | tuple {xs : List Value} (h : ∀ x ∈ xs, WellFormed x) : WellFormed (.tuple xs)
  | set {xs : List Value} (hk : ∀ x ∈ xs, x.isHashable = true)
      (hd : xs.Pairwise fun x y => sameKey x y = false) : WellFormed (.set xs)
  | dict {es : List (Value × Value)} (h : ∀ e ∈ es, WellFormed e.2)
      (hk : ∀ e ∈ es, e.1.isHashable = true)
      (hd : es.Pairwise fun e f => sameKey e.1 f.1 = false) : WellFormed (.dict es)

/-! ## Searching for keys -/

section
variable {k v w : Value} {xs ys : List Value} {es fs : List (Value × Value)}
  {test : Value → Except Fault Bool} {f : Value → Bool}

theorem holdsOfOne_eq_any (h : ∀ y ∈ ys, test y = .ok (f y)) :
    holdsOfOne test ys = .ok (ys.any f) := by
  induction ys with
  | nil => rw [holdsOfOne,List.any_nil]
  | cons y ys ih =>
      obtain ⟨hy,hrest⟩ := List.forall_mem_cons.mp h
      rw [holdsOfOne,hy,ih hrest,List.any_cons]
      cases f y <;> rfl

theorem containedIn_eq (hx : ∀ x ∈ xs, x.isHashable = true)
    (hy : ∀ y ∈ ys, y.isHashable = true) :
    containedIn xs ys = .ok (xs.all fun x => ys.any (sameKey x)) := by
  induction xs with
  | nil => rw [containedIn,List.all_nil]
  | cons x xs ih =>
      obtain ⟨hhead,hrest⟩ := List.forall_mem_cons.mp hx
      rw [containedIn,holdsOfOne_eq_any fun y hm => equal_eq_sameKey hhead (hy y hm),ih hrest,
        List.all_cons]
      cases ys.any (sameKey x) <;> rfl

theorem holdsUnder_eq (hk : k.isHashable = true) (hf : ∀ f ∈ fs, f.1.isHashable = true) :
    holdsUnder (equal k) test fs = match lookup k fs with
      | some w => test w
      | none => .ok false := by
  induction fs with
  | nil => rw [holdsUnder,lookup]
  | cons f fs ih =>
      obtain ⟨hhead,hrest⟩ := List.forall_mem_cons.mp hf
      rw [holdsUnder,equal_eq_sameKey hk hhead,lookup]
      cases hs : sameKey k f.1 with
      | true => rfl
      | false => exact ih hrest

theorem equalEntries_cons_of_lookup {e : Value × Value} (he : e.1.isHashable = true)
    (hf : ∀ f ∈ fs, f.1.isHashable = true) :
    equalEntries (e :: es) fs = match lookup e.1 fs with
      | none => .ok false
      | some w => e.2.equal w >>= fun b => if b then equalEntries es fs else .ok false := by
  rw [equalEntries,holdsUnder_eq he hf]
  cases lookup e.1 fs <;> rfl

theorem equalEntries_iff (he : ∀ e ∈ es, e.1.isHashable = true)
    (hf : ∀ f ∈ fs, f.1.isHashable = true) : equalEntries es fs = .ok true ↔
      ∀ e ∈ es, ∃ w, lookup e.1 fs = some w ∧ e.2.Equals w := by
  induction es with
  | nil => simp [equalEntries]
  | cons e es ih =>
      obtain ⟨hhead,hrest⟩ := List.forall_mem_cons.mp he
      rw [equalEntries_cons_of_lookup hhead hf,List.forall_mem_cons,← ih hrest]
      cases lookup e.1 fs with
      | none => simp
      | some w =>
          simp only [Option.some.injEq,exists_eq_left',Equals]
          cases e.2.equal w with
          | error g => simp [Bind.bind,Except.bind]
          | ok b => cases b <;> simp [Bind.bind,Except.bind]

theorem exists_of_lookup (h : lookup k es = some v) :
    ∃ e ∈ es, sameKey k e.1 = true ∧ e.2 = v := by
  induction es with
  | nil => cases h
  | cons e es ih =>
      rw [lookup] at h
      split at h
      · rename_i hs
        exact ⟨e,List.mem_cons_self,hs,Option.some.inj h⟩
      · obtain ⟨f,hf,hs,hv⟩ := ih h
        exact ⟨f,List.mem_cons_of_mem _ hf,hs,hv⟩

/-- Where keys differ from each other, each is found. -/
theorem lookup_of_mem (hk : k.isHashable = true) (he : ∀ e ∈ es, e.1.isHashable = true)
    (hd : es.Pairwise fun e f => sameKey e.1 f.1 = false) {e : Value × Value} (hm : e ∈ es)
    (hs : sameKey k e.1 = true) : lookup k es = some e.2 := by
  induction es with
  | nil => cases hm
  | cons f es ih =>
      obtain ⟨hf,hrest⟩ := List.forall_mem_cons.mp he
      obtain ⟨hdf,hdrest⟩ := List.pairwise_cons.mp hd
      rw [lookup]
      rcases List.mem_cons.mp hm with rfl | hm
      · rw [if_pos hs]
      · have hkf : sameKey k f.1 = false := by
          rw [Bool.eq_false_iff]
          intro hkf
          have hfk := equals_symm_of_isHashable hk (sameKey_iff.mp hkf)
          have hek := equals_symm_of_isHashable hk (sameKey_iff.mp hs)
          have hdistinct := distinct_of_sameKey_eq_false hf (hrest e hm) (hdf e hm)
          have hne := hdistinct k (sameKey_iff.mpr hfk)
          rw [sameKey_iff.mpr hek] at hne
          cases hne
        rw [hkf]
        exact ih hrest hdrest hm

/-- As many values as there are on the other side, or more, each related to one of these and no
two to the same one, leave none of them out. -/
theorem exists_related {α β : Type} {R : α → β → Prop} {as : List α} {bs : List β}
    (hlen : bs.length ≤ as.length) (hd : as.Pairwise fun a a' => ∀ b, R a b → ¬ R a' b)
    (h : ∀ a ∈ as, ∃ b ∈ bs, R a b) : ∀ b ∈ bs, ∃ a ∈ as, R a b := by
  induction as generalizing bs with
  | nil =>
      intro b hb
      rw [List.eq_nil_of_length_eq_zero (Nat.le_zero.mp hlen)] at hb
      cases hb
  | cons a as ih =>
      obtain ⟨ha,hrest⟩ := List.forall_mem_cons.mp h
      obtain ⟨hda,hdrest⟩ := List.pairwise_cons.mp hd
      obtain ⟨c,hc,hac⟩ := ha
      obtain ⟨before,after,rfl⟩ := List.append_of_mem hc
      have hothers : ∀ a' ∈ as, ∃ b ∈ before ++ after, R a' b := by
        intro a' ha'
        obtain ⟨b,hb,hab⟩ := hrest a' ha'
        have hbc : b ≠ c := by
          rintro rfl
          exact hda a' ha' b hac hab
        refine ⟨b,?_,hab⟩
        rw [List.mem_append,List.mem_cons] at hb
        rw [List.mem_append]
        exact hb.imp_right fun hb => hb.resolve_left hbc
      have hleft : (before ++ after).length ≤ as.length := by
        simp only [List.length_cons,List.length_append] at hlen ⊢
        omega
      intro b hb
      rw [List.mem_append,List.mem_cons] at hb
      by_cases hbc : b = c
      · exact ⟨a,List.mem_cons_self,hbc ▸ hac⟩
      · have hb' : b ∈ before ++ after :=
          List.mem_append.mpr (hb.imp_right fun hb => hb.resolve_left hbc)
        obtain ⟨a',ha',hab⟩ := ih hleft hdrest hothers b hb'
        exact ⟨a',List.mem_cons_of_mem _ ha',hab⟩

theorem length_le_of_related {α β : Type} {R : α → β → Prop} {as : List α} {bs : List β}
    (hd : as.Pairwise fun a a' => ∀ b, R a b → ¬ R a' b) (h : ∀ a ∈ as, ∃ b ∈ bs, R a b) :
    as.length ≤ bs.length := by
  by_contra hlt
  cases as with
  | nil => exact hlt (Nat.zero_le _)
  | cons a as =>
      obtain ⟨⟨b,hb,hab⟩,hrest⟩ := List.forall_mem_cons.mp h
      obtain ⟨hda,hdrest⟩ := List.pairwise_cons.mp hd
      have hlen : bs.length ≤ as.length := by
        rw [List.length_cons] at hlt
        omega
      obtain ⟨a',ha',hab'⟩ := exists_related hlen hdrest hrest b hb
      exact hda a' ha' b hab hab'

theorem equals_set_iff (hx : ∀ x ∈ xs, x.isHashable = true)
    (hy : ∀ y ∈ ys, y.isHashable = true) : (Value.set xs).Equals (.set ys) ↔
      xs.length = ys.length ∧ ∀ x ∈ xs, ∃ y ∈ ys, x.Equals y := by
  unfold Equals
  rw [equal,containedIn_eq hx hy]
  split <;> simp_all [sameKey_iff,Equals]

theorem equals_dict_iff (he : ∀ e ∈ es, e.1.isHashable = true)
    (hf : ∀ f ∈ fs, f.1.isHashable = true) : (Value.dict es).Equals (.dict fs) ↔
      es.length = fs.length ∧ ∀ e ∈ es, ∃ w, lookup e.1 fs = some w ∧ e.2.Equals w := by
  rw [← equalEntries_iff he hf,Equals,equal]
  split <;> simp_all

end

/-! ## Both directions -/

theorem WellFormed.items {v : Value} {xs : List Value} (hv : v.WellFormed)
    (h : v = .list xs ∨ v = .tuple xs) : ∀ x ∈ xs, x.WellFormed := by
  cases hv with
  | scalar hs => rcases h with rfl | rfl <;> cases hs
  | list hx =>
      cases h with
      | inl h =>
          cases h
          exact hx
      | inr h => cases h
  | tuple hx =>
      cases h with
      | inl h => cases h
      | inr h =>
          cases h
          exact hx
  | set hk hd => simp at h
  | dict hx hk hd => simp at h

theorem WellFormed.members {xs : List Value} (h : (Value.set xs).WellFormed) :
    ∀ x ∈ xs, x.isHashable = true := by
  cases h with
  | set hk hd => exact hk
  | scalar hs => cases hs

theorem WellFormed.entries {es : List (Value × Value)} (h : (Value.dict es).WellFormed) :
    (∀ e ∈ es, e.2.WellFormed) ∧ (∀ e ∈ es, e.1.isHashable = true) ∧
      es.Pairwise fun e f => sameKey e.1 f.1 = false := by
  cases h with
  | dict hv hk hd => exact ⟨hv,hk,hd⟩
  | scalar hs => cases hs

theorem pairwise_distinct {α : Type} {as : List α} {key : α → Value}
    (hk : ∀ a ∈ as, (key a).isHashable = true)
    (hd : as.Pairwise fun a b => sameKey (key a) (key b) = false) :
    as.Pairwise fun a b => Distinct (key a) (key b) :=
  hd.imp_of_mem fun ha hb h => distinct_of_sameKey_eq_false (hk _ ha) (hk _ hb) h

/-- No value equals two members of a set. -/
theorem pairwise_not_equals {xs : List Value} (hk : ∀ x ∈ xs, x.isHashable = true)
    (hd : xs.Pairwise fun x y => sameKey x y = false) :
    xs.Pairwise fun x x' => ∀ y, x.Equals y → ¬ x'.Equals y := by
  refine (pairwise_distinct hk hd).imp fun h y hxy hxy' => ?_
  have hne := h y (sameKey_iff.mpr hxy)
  rw [sameKey_iff.mpr hxy'] at hne
  cases hne

theorem Equals.symm {v w : Value} (hv : v.WellFormed) (hw : w.WellFormed) (h : v.Equals w) :
    w.Equals v := by
  induction hv generalizing w with
  | scalar hs => exact equals_symm_scalar hs h
  | @list xs hx ih =>
      cases w with
      | list ys =>
          have hy := hw.items (Or.inl rfl)
          rw [equals_list_iff] at h ⊢
          exact ⟨h.1.symm,equalItems_symm (fun x hx y hm => ih x hx (hy y hm)) h.2⟩
      | _ => simp [Equals,equal] at h
  | @tuple xs hx ih =>
      cases w with
      | tuple ys =>
          have hy := hw.items (Or.inr rfl)
          rw [equals_tuple_iff] at h ⊢
          exact ⟨h.1.symm,equalItems_symm (fun x hx y hm => ih x hx (hy y hm)) h.2⟩
      | _ => simp [Equals,equal] at h
  | @set xs hk hd =>
      cases hw with
      | @set ys hk' hd' =>
          obtain ⟨hlen,hfound⟩ := (equals_set_iff hk hk').mp h
          refine (equals_set_iff hk' hk).mpr ⟨hlen.symm,?_⟩
          intro y hy
          obtain ⟨x,hx,hxy⟩ := exists_related hlen.ge (pairwise_not_equals hk hd) hfound y hy
          exact ⟨x,hx,equals_symm_of_isHashable (hk x hx) hxy⟩
      | scalar hs => cases w <;> first | (simp [Equals,equal] at h; done) | cases hs
      | _ => simp [Equals,equal] at h
  | @dict es hv hk hd ih =>
      cases hw with
      | @dict fs hv' hk' hd' =>
          obtain ⟨hlen,hfound⟩ := (equals_dict_iff hk hk').mp h
          refine (equals_dict_iff hk' hk).mpr ⟨hlen.symm,?_⟩
          have hone : es.Pairwise fun e e' => ∀ f : Value × Value,
              sameKey e.1 f.1 = true ∧ e.2.Equals f.2 →
                ¬ (sameKey e'.1 f.1 = true ∧ e'.2.Equals f.2) := by
            refine (pairwise_distinct hk hd).imp fun h f hef hef' => ?_
            rw [h f.1 hef.1] at hef'
            cases hef'.1
          have hrelated : ∀ e ∈ es, ∃ f ∈ fs, sameKey e.1 f.1 = true ∧ e.2.Equals f.2 := by
            intro e he
            obtain ⟨w,hw,hew⟩ := hfound e he
            obtain ⟨f,hf,hs,rfl⟩ := exists_of_lookup hw
            exact ⟨f,hf,hs,hew⟩
          intro f hf
          obtain ⟨e,he,hs,hef⟩ := exists_related hlen.ge hone hrelated f hf
          have hfe := equals_symm_of_isHashable (hk e he) (sameKey_iff.mp hs)
          refine ⟨e.2,lookup_of_mem (hk' f hf) hk hd he (sameKey_iff.mpr hfe),?_⟩
          exact ih e he (hv' f hf) hef
      | scalar hs => cases w <;> first | (simp [Equals,equal] at h; done) | cases hs
      | _ => simp [Equals,equal] at h

theorem equals_comm {v w : Value} (hv : v.WellFormed) (hw : w.WellFormed) :
    v.Equals w ↔ w.Equals v :=
  ⟨Equals.symm hv hw,Equals.symm hw hv⟩

end Value

end Vetting
