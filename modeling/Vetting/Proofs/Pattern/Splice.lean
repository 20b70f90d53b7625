import Vetting.Proofs.Pattern.Complement
import Vetting.Proofs.Pattern.Language
import Vetting.Proofs.Pattern.Removal

/-!
# Characters put into a class

Between the brackets of a class most characters stand for themselves, whatever stands next to
them. A hyphen does so only where it makes no range, which is at either end and right behind a
range. Anywhere else it takes both its neighbours into a range, and if they are in the wrong order
there is no class at all.
-/
namespace Vetting.Pattern

/-- The text of one or more characters of a class. -/
def Regex.ofSeveral (K : CharClass) : Regex := ⟨[.repeated .greedy 1 none [.one .plain K]],0,[]⟩

/-- Items in front of what has been read of a class. -/
def inFront (items : List ClassItem) :
    Except Fault (List ClassItem × List Token) → Except Fault (List ClassItem × List Token)
  | .ok r => .ok (items ++ r.1,r.2)
  | .error f => .error f

/-! ## Items of a class -/

section
variable {c d : Char} {s : List Char} {rest : List Token} {fuel : Nat} {first : Bool}
  {items : List ClassItem}

theorem inFront_append (items' : List ClassItem)
    (r : Except Fault (List ClassItem × List Token)) :
    inFront items (inFront items' r) = inFront (items ++ items') r := by
  cases r with
  | error f => rfl
  | ok r => rw [inFront,inFront,inFront,List.append_assoc]

theorem classItems_of_ne (hc : c ≠ ']') : classItems (fuel + 1) first (.plain c :: rest) =
    (match rest with
      | .plain '-' :: .plain ']' :: rest => .ok ([.point c.toNat,.point 45],rest)
      | .plain '-' :: rest => do
          let (other,rest) ← classUnit rest
          let range ← rangeOf (.point c.toNat) other
          let r ← classItems fuel false rest
          .ok (range :: r.1,r.2)
      | rest => do
          let r ← classItems fuel false rest
          .ok (.point c.toNat :: r.1,r.2)) := by
  rw [classItems.eq_3]
  · rfl
  · rintro more - ⟨⟩
    exact hc rfl

/-- A character that no hyphen follows stands for itself. -/
theorem classItems_unit (hc : c ≠ ']') (hrest : rest.head? ≠ some (.plain '-')) :
    classItems (fuel + 1) first (.plain c :: rest) =
      inFront [.point c.toNat] (classItems fuel false rest) := by
  rw [classItems_of_ne hc]
  split
  · exact absurd rfl hrest
  · exact absurd rfl hrest
  · cases classItems fuel false rest <;> rfl

/-- A hyphen between two characters makes a range of them, if they are in order. -/
theorem classItems_range (hc : c ≠ ']') (hd : d ≠ ']') :
    classItems (fuel + 1) first (.plain c :: .plain '-' :: .plain d :: rest) =
      if c.toNat ≤ d.toNat then
        inFront [.range c.toNat d.toNat] (classItems fuel false rest)
      else .error .badPattern := by
  rw [classItems_of_ne hc]
  split
  · rename_i h
    cases h
    exact absurd rfl hd
  · rename_i h
    cases h
    dsimp only [classUnit,Bind.bind,Except.bind]
    by_cases hle : c.toNat ≤ d.toNat
    · have hrange : rangeOf (.point c.toNat) (.point d.toNat) = .ok (.range c.toNat d.toNat) :=
        if_pos hle
      rw [hrange,if_pos hle]
      cases classItems fuel false rest <;> rfl
    · have hrange : rangeOf (.point c.toNat) (.point d.toNat) = .error .badPattern := if_neg hle
      rw [hrange,if_neg hle]
  · rename_i h
    exact absurd rfl (h _)

/-- Characters other than hyphens and brackets stand for themselves, one by one. -/
theorem classItems_points (hs : ∀ x ∈ s, x ≠ ']' ∧ x ≠ '-')
    (hrest : s ≠ [] → rest.head? ≠ some (.plain '-')) :
    classItems (fuel + s.length) false (s.map .plain ++ rest) =
      inFront (s.map fun x => .point x.toNat) (classItems fuel false rest) := by
  induction s with
  | nil => cases hr : classItems fuel false rest <;> simp [inFront,hr]
  | cons x s ih =>
      obtain ⟨⟨hclose,-⟩,hs⟩ := List.forall_mem_cons.mp hs
      have hnext : (s.map Token.plain ++ rest).head? ≠ some (.plain '-') := by
        cases s with
        | nil => exact hrest (List.cons_ne_nil _ _)
        | cons y s =>
            intro h
            exact (hs y List.mem_cons_self).2 (Token.plain.inj (Option.some.inj h))
      rw [List.length_cons,← Nat.add_assoc,List.map_cons,List.cons_append,
        classItems_unit hclose hnext,ih hs fun _ => hrest (List.cons_ne_nil _ _),inFront_append]
      rfl

end

/-! ## The pattern of several characters -/

section
variable {t : List Char} {K : CharClass}

theorem parse_several (h : CharClass.read (tokens t) = .ok (K,[.plain '+'])) :
    Regex.parse ('[' :: t) = .ok (.ofSeveral K) := by
  have ht : tokens ('[' :: t) = .plain '[' :: tokens t := tokens_cons (by decide) t
  have hrow : ∀ fuel, (row (fuel + 3) none true []).run (.start .plain (tokens ('[' :: t))) =
      .ok ([.repeated .greedy 1 none [.one .plain K]],.start .plain []) := fun fuel => by
    rw [row_class ht rfl h,row_repetition rfl rfl rfl rfl (by decide) (by decide)]
    exact row_nil rfl
  exact parse_run (by omega) hrow rfl rfl

/-- A text matches if it is not empty and has characters of the class only. -/
theorem matchesAll_ofSeveral (s : List Char) : (Regex.ofSeveral K).matchesAll s = true ↔
    s ≠ [] ∧ ∀ x ∈ s, K.contains .plain x = true := by
  rw [Regex.matchesAll_iff rfl,Regex.ofSeveral,rowForm_singleton,form_repeated_one rfl]
  exact and_congr List.length_pos_iff (and_iff_right nofun)

end

end Vetting.Pattern
