import Vetting.Proofs.Number.Nearest
import Vetting.Proofs.Value.Difference

/-!
# Laws of the order of numbers

Two numbers stand in an order unless one of them is a NaN, the order is turned round when
they change places, and numbers that equal the same number are equal, of whatever kinds they
are. Decimals that are equal are nearest to equal binary numbers, whatever their exponents.
-/
namespace Vetting.Number

/-! ## Sizes -/

section
variable {a b c : Nat} {e f g : Int}

theorem compareSizes_swap (a b : Nat) (e f : Int) :
    compareSizes b f a e = (compareSizes a e b f).swap := by
  unfold compareSizes
  dsimp only
  rcases Int.lt_trichotomy (e + digitCount a) (f + digitCount b) with h | h | h
  · rw [if_neg (by omega),if_pos h,if_pos h]
    rfl
  · rw [if_neg (by omega),if_neg (by omega),if_neg (by omega),if_neg (by omega),
      Nat.compare_swap]
  · rw [if_pos h,if_neg (by omega),if_pos h]
    rfl

theorem scaled_eq_iff (a b : Nat) (e f : Int) :
    a * Nat.pow 10 (e - f).toNat = b * Nat.pow 10 (f - e).toNat ↔
      (a : ℚ) * 10 ^ e = b * 10 ^ f := by
  have hten : ∀ z : Int, (10 : ℚ) ^ z ≠ 0 := fun z => zpow_ne_zero z (by norm_num)
  rcases Int.le_total e f with h | h
  · obtain ⟨j,rfl⟩ := Int.le.dest h
    rw [show (e - (e + j)).toNat = 0 by omega,show (e + j - e).toNat = j by omega,
      zpow_add₀ (by norm_num),mul_comm (10 ^ e : ℚ),← mul_assoc,mul_left_inj' (hten e),
      zpow_natCast,← Nat.cast_inj (R := ℚ)]
    push_cast
    simp
  · obtain ⟨j,rfl⟩ := Int.le.dest h
    rw [show (f + j - f).toNat = j by omega,show (f - (f + j)).toNat = 0 by omega,
      zpow_add₀ (by norm_num),mul_comm (10 ^ f : ℚ),← mul_assoc,mul_left_inj' (hten f),
      zpow_natCast,← Nat.cast_inj (R := ℚ)]
    push_cast
    simp

/-- Equal sizes are equal as numbers, and have their leading digits at the same place. -/
theorem compareSizes_eq_iff : compareSizes a e b f = .eq ↔
    e + digitCount a = f + digitCount b ∧ (a : ℚ) * 10 ^ e = b * 10 ^ f := by
  rw [← scaled_eq_iff,← Nat.compare_eq_eq,compareSizes]
  split
  · simp
    omega
  · split
    · simp
      omega
    · constructor
      · exact fun h => ⟨by omega,h⟩
      · exact And.right

theorem compareSizes_trans (h : compareSizes a e b f = .eq) (h' : compareSizes b f c g = .eq) :
    compareSizes a e c g = .eq := by
  rw [compareSizes_eq_iff] at h h' ⊢
  exact ⟨h.1.trans h'.1,h.2.trans h'.2⟩

end

/-! ## Places on the line -/

namespace Position
variable {p q r : Position}

theorem order?_swap (p q : Position) : q.order? p = (p.order? q).map Ordering.swap := by
  cases p with
  | «at» n a e =>
      cases q with
      | «at» m b f =>
          by_cases ha : a = 0
          · by_cases hb : b = 0
            · simp [order?,ha,hb]
            · cases m <;> simp [order?,ha,hb]
          · by_cases hb : b = 0
            · cases n <;> simp [order?,ha,hb]
            · cases n <;> cases m <;> simp [order?,ha,hb,compareSizes_swap a b]
      | end_ m => cases m <;> rfl
      | _ => rfl
  | end_ n =>
      cases q with
      | «at» m b f => cases n <;> rfl
      | end_ m => cases n <;> cases m <;> rfl
      | _ => rfl
  | _ => cases q <;> rfl

/-- Whatever lies at the same place as a place on the line lies at the same place as all
that does. -/
theorem order?_trans (h : p.order? q = some .eq) (h' : q.order? r = some .eq) :
    p.order? r = some .eq := by
  cases p with
  | «at» n a e =>
      obtain ⟨m,b,f,rfl,hab⟩ := eq_of_order? h
      obtain ⟨l,c,g,rfl,hbc⟩ := eq_of_order? h'
      rcases hab with ⟨ha,hb⟩ | ⟨ha,hb,rfl,hab⟩
      · rcases hbc with ⟨-,hc⟩ | ⟨hb',-⟩
        · simp [order?,ha,hc]
        · exact absurd hb hb'
      · rcases hbc with ⟨hb',-⟩ | ⟨-,hc,rfl,hbc⟩
        · exact absurd hb' hb
        · cases n <;> simp [order?,ha,hc,compareSizes_trans hab hbc]
  | end_ n =>
      cases q with
      | end_ m =>
          cases r with
          | end_ l => cases n <;> cases m <;> cases l <;> simp_all [order?]
          | _ => cases m <;> simp [order?] at h'
      | _ => cases n <;> simp [order?] at h
  | _ => simp [order?] at h

/-- Not a place on the line. -/
def isNaN : Position → Bool
  | .nan => true
  | .signal => true
  | _ => false

theorem order?_eq_none_iff : p.order? q = none ↔ p.isNaN = true ∨ q.isNaN = true := by
  cases p with
  | «at» n a e =>
      cases q with
      | «at» m b f =>
          by_cases ha : a = 0
          · by_cases hb : b = 0 <;> simp [order?,ha,hb,isNaN]
          · by_cases hb : b = 0
            · simp [order?,ha,hb,isNaN]
            · cases n <;> cases m <;> simp [order?,ha,hb,isNaN]
      | _ => simp [order?,isNaN]
  | end_ n => cases q <;> simp [order?,isNaN]
  | _ => simp [order?,isNaN]

end Position

/-! ## Numbers -/

section
variable {a b c : Number}

/-- Numbers are equal if they lie at the same place, integers included. -/
theorem order?_eq_iff : a.order? b = some .eq ↔ a.position.order? b.position = some .eq := by
  cases a with
  | int n =>
      cases b with
      | int m =>
          simp only [Number.order?,Option.some.injEq,Int.compare_eq_eq]
          constructor
          · rintro rfl
            exact Position.order?_at_self _ _ _
          · intro h
            obtain ⟨s,c,e,hm,hnm⟩ := Position.eq_of_order? h
            cases hm
            rcases hnm with ⟨hn,hm⟩ | ⟨-,-,hs,hnm⟩
            · omega
            · have habs : n.natAbs = m.natAbs := by simpa using compareSizes_eq hnm
              rw [decide_eq_decide] at hs
              omega
      | _ => rfl
  | _ => rfl

theorem order?_swap (a b : Number) : b.order? a = (a.order? b).map Ordering.swap := by
  cases a with
  | int n =>
      cases b with
      | int m => simp [Number.order?,Int.compare_swap]
      | _ => exact Position.order?_swap _ _
  | _ => cases b <;> exact Position.order?_swap _ _

theorem order?_trans (h : a.order? b = some .eq) (h' : b.order? c = some .eq) :
    a.order? c = some .eq := by
  rw [order?_eq_iff] at h h' ⊢
  exact Position.order?_trans h h'

theorem order?_eq_none_iff :
    a.order? b = none ↔ a.position.isNaN = true ∨ b.position.isNaN = true := by
  cases a with
  | int n =>
      cases b with
      | int m => simp [Number.order?,Number.position,Position.isNaN]
      | _ => exact Position.order?_eq_none_iff
  | _ => exact Position.order?_eq_none_iff

end

theorem Binary64.ofRatio_ne_nan (negative : Bool) (n d : Nat) :
    Binary64.ofRatio negative n d ≠ .nan := by
  unfold Binary64.ofRatio
  split
  · exact nofun
  · unfold Binary64.settle
    dsimp only
    split <;> split <;> exact nofun

theorem Binary64.ofScaled_ne_nan (negative : Bool) (n : Nat) (k : Int) :
    Binary64.ofScaled negative n k ≠ .nan := by
  unfold Binary64.ofScaled
  dsimp only
  split
  · exact nofun
  split
  · exact nofun
  split
  · exact nofun
  split <;> exact ofRatio_ne_nan _ _ _

theorem order?_zero (n m : Bool) :
    (Number.binary (.zero n)).order? (.binary (.zero m)) = some .eq := by
  have hp : ∀ s, (Number.binary (.zero s)).position = .at s 0 Binary64.minExponent := by
    intro s
    rw [Binary64.zero,Number.position,if_neg (by decide),Nat.zero_mul]
  rw [order?_eq_iff,hp,hp]
  simp [Position.order?]

/-- Equal decimals are nearest to equal binary numbers. -/
theorem order?_toBinary64 {c d : Decimal}
    (h : (Number.decimal c).order? (.decimal d) = some .eq) :
    ∃ x y, c.toBinary64? = some x ∧ d.toBinary64? = some y ∧
      (Number.binary x).order? (.binary y) = some .eq := by
  cases c with
  | finite n a e =>
      obtain ⟨m,b,f,hd,hab⟩ := Position.eq_of_order? h
      cases d with
      | finite m b f =>
          cases hd
          refine ⟨_,_,rfl,rfl,?_⟩
          rcases hab with ⟨rfl,rfl⟩ | ⟨ha,hb,rfl,hab⟩
          · exact order?_zero n m
          · obtain ⟨-,hsize⟩ := compareSizes_eq_iff.mp hab
            rw [Binary64.ofScaled_congr (Nat.pos_of_ne_zero ha) (Nat.pos_of_ne_zero hb) hsize,
              order?_binary_self,if_neg (Binary64.ofScaled_ne_nan _ _ _)]
      | _ => cases hd
  | infinite n =>
      cases d with
      | infinite m => exact ⟨_,_,rfl,rfl,h⟩
      | finite m b f => cases n <;> cases h
      | _ => cases h
  | _ => cases h

end Vetting.Number
