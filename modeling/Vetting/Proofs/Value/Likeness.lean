import Vetting.Proofs.Number.Order

/-!
# Keys that are the same

Equality is asked of two values in one direction, and can fail on a signalling NaN. On values
that can be keys it does neither matter: whether two of them are the same key always has an
answer, the direction makes no difference, and keys that are the same as a third one are the
same. So a collection with keys that differ in pairs is searched without fail, and equality of
sets and of dictionaries comes down to what is found in them.
-/
namespace Vetting
open Number

namespace Number

theorem position_eq_signal_iff {a : Number} :
    a.position = .signal ↔ ∃ negative p, a = .decimal (.signalNaN negative p) := by
  cases a with
  | int n => simp [Number.position]
  | binary x =>
      cases x with
      | finite negative m e =>
          rw [Number.position]
          split <;> simp
      | _ => simp [Number.position]
  | decimal d => cases d <;> simp [Number.position]

/-- Equality of numbers fails on signalling NaNs only. -/
theorem equal_eq (a b : Number) : a.equal b =
    if a.position = .signal ∨ b.position = .signal then .error .noResult
    else .ok (a.order? b == some .eq) := by
  unfold Number.equal
  split
  · exact (if_pos (Or.inl rfl)).symm
  · exact (if_pos (Or.inr rfl)).symm
  · rename_i ha hb
    have hsignal : ¬ (a.position = .signal ∨ b.position = .signal) := by
      rw [position_eq_signal_iff,position_eq_signal_iff]
      rintro (⟨s,p,h⟩ | ⟨s,p,h⟩)
      · exact ha s p h
      · exact hb s p h
    rw [if_neg hsignal]

end Number

namespace Value

/-- Two values that can be compared, and are equal. -/
def Equals (v w : Value) : Prop := v.equal w = .ok true

section
variable {u v w : Value} {a b : Number}

theorem sameKey_iff : sameKey v w = true ↔ v.Equals w := by
  unfold sameKey Equals
  cases v.equal w <;> simp [Except.toOption]

/-! ## Numbers -/

theorem equal_of_number? (h : v.number? = some a) (w : Value) :
    v.equal w = equalsNumber a w := by
  cases v <;> simp only [number?,Option.some.injEq,reduceCtorEq] at h <;> rw [equal,h]

theorem isNaN_of_number? (h : v.number? = some a) : v.isNaN = a.position.isNaN := by
  cases v with
  | float x =>
      cases h
      cases x with
      | finite negative m e =>
          rw [Number.position]
          split <;> rfl
      | _ => rfl
  | decimal d =>
      cases h
      cases d <;> rfl
  | _ => cases h <;> rfl

theorem isSignal_of_number? (h : v.number? = some a) :
    v.isSignal = true ↔ a.position = .signal := by
  rw [position_eq_signal_iff]
  cases v with
  | decimal d =>
      cases h
      cases d <;> simp [isSignal,Decimal.isSignal]
  | _ => cases h <;> simp [isSignal]

theorem equals_iff_of_number? (h : v.number? = some a) :
    v.Equals w ↔ ∃ b, w.number? = some b ∧ a.order? b = some .eq := by
  unfold Equals
  rw [equal_of_number? h,equalsNumber]
  cases w.number? with
  | none => simp
  | some b =>
      simp only [Option.some.injEq,exists_eq_left',Number.equal_eq]
      split
      · rename_i hs
        have hnone : a.order? b = none := by
          rw [order?_eq_none_iff]
          rcases hs with hs | hs <;> simp [hs,Position.isNaN]
        simp [hnone]
      · simp

theorem order?_of_equals (ha : v.number? = some a) (hb : w.number? = some b)
    (h : v.Equals w) : a.order? b = some .eq := by
  obtain ⟨c,hc,hac⟩ := (equals_iff_of_number? ha).mp h
  rw [hb] at hc
  cases hc
  exact hac

end

/-! ## Other scalars -/

/-- What a scalar goes by that is no number. -/
inductive Mark where
  | null
  | date (d : Date)
  | moment (zoned : Bool) (key : List Int)
  | bytes (bs : List UInt8)
  | text (s : String)
  deriving DecidableEq

def mark? : Value → Option Mark
  | .null => some .null
  | .date d => some (.date d)
  | .moment t => some (.moment t.offset.isSome t.toKey)
  | .bytes bs => some (.bytes bs)
  | .text s => some (.text s)
  | _ => none

section
variable {v w : Value} {m : Mark}

theorem equal_of_mark? (h : v.mark? = some m) (w : Value) :
    v.equal w = .ok (decide (some m = w.mark?)) := by
  cases v with
  | null =>
      cases h
      cases w <;> simp [equal,mark?,isNull]
  | date d =>
      cases h
      cases w <;> simp [equal,mark?,beq_eq_decide]
  | moment t =>
      cases h
      cases w <;> simp [equal,mark?,beq_eq_decide]
  | bytes bs =>
      cases h
      cases w <;> simp [equal,mark?,beq_eq_decide]
  | text s =>
      cases h
      cases w <;> simp [equal,mark?,beq_eq_decide]
  | _ => cases h

theorem equals_iff_of_mark? (h : v.mark? = some m) : v.Equals w ↔ w.mark? = some m := by
  rw [Equals,equal_of_mark? h,@eq_comm _ w.mark?]
  simp

end

/-! ## Values from their parts -/

/-- Anything but a collection. -/
def isScalar : Value → Bool
  | .list _ => false
  | .tuple _ => false
  | .set _ => false
  | .dict _ => false
  | _ => true

theorem number?_or_mark? {v : Value} (hs : v.isScalar = true) :
    (∃ a, v.number? = some a) ∨ ∃ m, v.mark? = some m := by
  cases v <;> first | exact Or.inl ⟨_,rfl⟩ | exact Or.inr ⟨_,rfl⟩ | cases hs

/-- What holds of a collection if it holds of its parts holds of all values. -/
theorem parts_induction {P : Value → Prop} (scalar : ∀ v : Value, v.isScalar = true → P v)
    (list : ∀ xs, (∀ x ∈ xs, P x) → P (.list xs))
    (tuple : ∀ xs, (∀ x ∈ xs, P x) → P (.tuple xs))
    (set : ∀ xs, (∀ x ∈ xs, P x) → P (.set xs))
    (dict : ∀ es : List (Value × Value), (∀ e ∈ es, P e.1 ∧ P e.2) → P (.dict es))
    (v : Value) : P v :=
  have hplain {α : Type} {f : α → Value} (h : ∀ a, (f a).isScalar = true) (a : α) : P (f a) :=
    scalar (f a) (h a)
  have hitems (x : Value) (rest : List Value) (hx : P x) (hrest : ∀ y ∈ rest, P y) :
      ∀ y ∈ x :: rest, P y :=
    List.forall_mem_cons.mpr ⟨hx,hrest⟩
  have hentries (e : Value × Value) (rest : List (Value × Value)) (he : P e.1 ∧ P e.2)
      (hrest : ∀ f ∈ rest, P f.1 ∧ P f.2) : ∀ f ∈ e :: rest, P f.1 ∧ P f.2 :=
    List.forall_mem_cons.mpr ⟨he,hrest⟩
  have hpair (k w : Value) (hk : P k) (hw : P w) : P (k,w).1 ∧ P (k,w).2 := ⟨hk,hw⟩
  @Value.rec P (fun xs => ∀ x ∈ xs, P x) (fun es => ∀ e ∈ es, P e.1 ∧ P e.2)
    (fun e => P e.1 ∧ P e.2) (scalar .null rfl) (hplain fun _ => rfl) (hplain fun _ => rfl)
    (hplain fun _ => rfl) (hplain fun _ => rfl) (hplain fun _ => rfl) (hplain fun _ => rfl)
    (hplain fun _ => rfl) (hplain fun _ => rfl) list tuple set dict (List.forall_mem_nil _)
    hitems (List.forall_mem_nil _) hentries hpair v

/-! ## Items -/

section
variable {x y : Value} {xs ys zs : List Value}

theorem equalItems_cons_iff : equalItems (x :: xs) (y :: ys) = .ok true ↔
    x.Equals y ∧ equalItems xs ys = .ok true := by
  unfold Equals
  rw [equalItems]
  cases x.equal y with
  | error f => simp [Bind.bind,Except.bind]
  | ok b => cases b <;> simp [Bind.bind,Except.bind]

theorem exists_equalItems (h : ∀ x ∈ xs, ∀ y ∈ ys, ∃ b, x.equal y = .ok b) :
    ∃ b, equalItems xs ys = .ok b := by
  induction xs generalizing ys with
  | nil => exact ⟨true,by rw [equalItems]⟩
  | cons x xs ih =>
      cases ys with
      | nil => exact ⟨true,by rw [equalItems]⟩
      | cons y ys =>
          obtain ⟨b,hb⟩ := h x List.mem_cons_self y List.mem_cons_self
          have hrest := ih fun x hx y hy =>
            h x (List.mem_cons_of_mem _ hx) y (List.mem_cons_of_mem _ hy)
          rw [equalItems,hb]
          cases b with
          | true => exact hrest
          | false => exact ⟨false,rfl⟩

theorem equalItems_symm (h : ∀ x ∈ xs, ∀ y ∈ ys, x.Equals y → y.Equals x)
    (hitems : equalItems xs ys = .ok true) : equalItems ys xs = .ok true := by
  induction xs generalizing ys with
  | nil => cases ys <;> rw [equalItems]
  | cons x xs ih =>
      cases ys with
      | nil => rw [equalItems]
      | cons y ys =>
          rw [equalItems_cons_iff] at hitems ⊢
          have hrest := ih (fun x hx y hy =>
            h x (List.mem_cons_of_mem _ hx) y (List.mem_cons_of_mem _ hy)) hitems.2
          exact ⟨h x List.mem_cons_self y List.mem_cons_self hitems.1,hrest⟩

theorem equalItems_trans (h : ∀ x ∈ xs, ∀ y z, x.Equals y → y.Equals z → x.Equals z)
    (hxy : equalItems xs ys = .ok true) (hyz : equalItems ys zs = .ok true)
    (hlen : xs.length = ys.length) : equalItems xs zs = .ok true := by
  induction xs generalizing ys zs with
  | nil => rw [equalItems]
  | cons x xs ih =>
      cases ys with
      | nil => cases hlen
      | cons y ys =>
          cases zs with
          | nil => rw [equalItems]
          | cons z zs =>
              rw [equalItems_cons_iff] at hxy hyz ⊢
              have hrest := ih (fun x hx => h x (List.mem_cons_of_mem _ hx)) hxy.2 hyz.2
                (Nat.succ.inj hlen)
              exact ⟨h x List.mem_cons_self y z hxy.1 hyz.1,hrest⟩

theorem equals_list_iff : (Value.list xs).Equals (.list ys) ↔
    xs.length = ys.length ∧ equalItems xs ys = .ok true := by
  unfold Equals
  rw [equal]
  split <;> simp_all

theorem equals_tuple_iff : (Value.tuple xs).Equals (.tuple ys) ↔
    xs.length = ys.length ∧ equalItems xs ys = .ok true := by
  unfold Equals
  rw [equal]
  cases equalItems xs ys with
  | error f => simp [Bind.bind,Except.bind]
  | ok b => cases b <;> simp [Bind.bind,Except.bind]

end

/-! ## Keys -/

section
variable {u v w : Value}

theorem hashableItems_iff {xs : List Value} :
    isHashable.hashableItems xs = true ↔ ∀ x ∈ xs, x.isHashable = true := by
  induction xs with
  | nil => simp [isHashable.hashableItems]
  | cons x rest ih => simp [isHashable.hashableItems,ih]

theorem isHashable_scalar (hs : v.isScalar = true) : v.isHashable = !v.isSignal := by
  cases v <;> first | rfl | cases hs

/-- Scalars can be compared unless one of them is a signalling NaN. -/
theorem exists_equal_scalar (hs : v.isScalar = true) (hv : v.isSignal = false)
    (hw : w.isSignal = false) : ∃ b, v.equal w = .ok b := by
  rcases number?_or_mark? hs with ⟨a,ha⟩ | ⟨m,hm⟩
  · rw [equal_of_number? ha,equalsNumber]
    cases hb : w.number? with
    | none => exact ⟨false,rfl⟩
    | some b =>
        have hsignal : ¬ (a.position = .signal ∨ b.position = .signal) := by
          rw [← isSignal_of_number? ha,← isSignal_of_number? hb,hv,hw]
          simp
        simp [Number.equal_eq,hsignal]
  · exact ⟨_,equal_of_mark? hm w⟩

theorem equals_symm_scalar (hs : v.isScalar = true) (h : v.Equals w) : w.Equals v := by
  rcases number?_or_mark? hs with ⟨a,ha⟩ | ⟨m,hm⟩
  · obtain ⟨b,hb,hab⟩ := (equals_iff_of_number? ha).mp h
    refine (equals_iff_of_number? hb).mpr ⟨a,ha,?_⟩
    rw [order?_swap,hab]
    rfl
  · exact (equals_iff_of_mark? ((equals_iff_of_mark? hm).mp h)).mpr hm

theorem equals_trans_scalar (hs : u.isScalar = true) (h : u.Equals v) (h' : v.Equals w) :
    u.Equals w := by
  rcases number?_or_mark? hs with ⟨a,ha⟩ | ⟨m,hm⟩
  · obtain ⟨b,hb,hab⟩ := (equals_iff_of_number? ha).mp h
    obtain ⟨c,hc,hbc⟩ := (equals_iff_of_number? hb).mp h'
    exact (equals_iff_of_number? ha).mpr ⟨c,hc,order?_trans hab hbc⟩
  · have hmv := (equals_iff_of_mark? hm).mp h
    exact (equals_iff_of_mark? hm).mpr ((equals_iff_of_mark? hmv).mp h')

theorem exists_equal_of_isHashable (hv : v.isHashable = true) (hw : w.isHashable = true) :
    ∃ b, v.equal w = .ok b := by
  induction v using parts_induction generalizing w with
  | scalar v hs =>
      rw [isHashable_scalar hs,Bool.not_eq_true'] at hv
      refine exists_equal_scalar hs hv ?_
      cases w <;> first | rfl | simpa [isHashable,isSignal] using hw
  | tuple xs ih =>
      cases w with
      | tuple ys =>
          rw [isHashable,hashableItems_iff] at hv hw
          have hitems : ∃ b, equalItems xs ys = .ok b :=
            exists_equalItems fun x hx y hy => ih x hx (hv x hx) (hw y hy)
          obtain ⟨b,hb⟩ := hitems
          rw [equal,hb]
          cases b <;> exact ⟨_,rfl⟩
      | _ => simp [equal]
  | list xs => cases hv
  | set xs => cases hv
  | dict es => cases hv

theorem equals_symm_of_isHashable (hv : v.isHashable = true) (h : v.Equals w) :
    w.Equals v := by
  induction v using parts_induction generalizing w with
  | scalar v hs => exact equals_symm_scalar hs h
  | tuple xs ih =>
      cases w with
      | tuple ys =>
          rw [isHashable,hashableItems_iff] at hv
          rw [equals_tuple_iff] at h ⊢
          exact ⟨h.1.symm,equalItems_symm (fun x hx y _ => ih x hx (hv x hx)) h.2⟩
      | _ => simp [Equals,equal] at h
  | list xs => cases hv
  | set xs => cases hv
  | dict es => cases hv

theorem equals_trans_of_isHashable (hu : u.isHashable = true) (h : u.Equals v)
    (h' : v.Equals w) : u.Equals w := by
  induction u using parts_induction generalizing v w with
  | scalar u hs => exact equals_trans_scalar hs h h'
  | tuple xs ih =>
      cases v with
      | tuple ys =>
          cases w with
          | tuple zs =>
              rw [isHashable,hashableItems_iff] at hu
              rw [equals_tuple_iff] at h h' ⊢
              have hitems := equalItems_trans (fun x hx y z => ih x hx (hu x hx)) h.2 h'.2 h.1
              exact ⟨h.1.trans h'.1,hitems⟩
          | _ => simp [Equals,equal] at h'
      | _ => simp [Equals,equal] at h
  | list xs => cases hu
  | set xs => cases hu
  | dict es => cases hu

/-- Whether two keys are the same can always be told. -/
theorem equal_eq_sameKey (hv : v.isHashable = true) (hw : w.isHashable = true) :
    v.equal w = .ok (sameKey v w) := by
  obtain ⟨b,hb⟩ := exists_equal_of_isHashable hv hw
  rw [sameKey,hb]
  rfl

/-- No third value is the same key as two that differ. -/
theorem distinct_of_sameKey_eq_false (hv : v.isHashable = true) (hw : w.isHashable = true)
    (h : sameKey v w = false) : Distinct v w := by
  intro u hu
  rw [Bool.eq_false_iff]
  intro hwu
  have hvw := equals_trans_of_isHashable hv (sameKey_iff.mp hu)
    (equals_symm_of_isHashable hw (sameKey_iff.mp hwu))
  rw [sameKey_iff.mpr hvw] at h
  cases h

end

end Value

end Vetting
