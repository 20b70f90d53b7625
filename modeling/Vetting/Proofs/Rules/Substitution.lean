import Vetting.Proofs.Pattern.Occurrence
import Vetting.Proofs.Rules.Sizing

/-!
# Replacing so many matches

The rule takes a limit to the number of matches that a search may replace, a negative one to
zero, and a search for no more than zero matches is one without a limit. So every limit is kept
but zero, which is taken for none at all, and the ones that no search can be given.
-/
namespace Vetting.Rules
open Pattern

/-- The matches that may be replaced with a limit: all of them if it is negative, else as many as
it says, from the left. -/
def withinLimit (n : Int) (ms : List Found) : List Found :=
  if n < 0 then ms else ms.take n.toNat

/-- A text with some of its matches replaced. -/
def substituted (ps : List Piece) (ms : List Found) (t : String) : Outcome :=
  replacedText (replaceFirst (fillPieces ps) ms t.toList)

section
variable {v limit : Value} {t e r : String} {p : Regex} {ps : List Piece} {n : Int} {b : Bound}
  {ms : List Found}

theorem withinLimit_zero (ms : List Found) : withinLimit 0 ms = [] := rfl

theorem length_withinLimit (hn : 0 ≤ n) (ms : List Found) :
    (withinLimit n ms).length = min n.toNat ms.length := by
  rw [withinLimit,if_neg (not_lt.mpr hn),List.length_take]

/-- The limit that the search is given. -/
theorem elim_of_ne_zero (hn : n ≠ 0) (ms : List Found) :
    (if n.toNat = 0 then none else some n.toNat).elim ms (ms.take ·) = withinLimit n ms := by
  unfold withinLimit
  rcases lt_or_gt_of_ne hn with hneg | hpos
  · rw [if_pos (Int.toNat_of_nonpos hneg.le),if_pos hneg]
    rfl
  · rw [if_neg (by omega),if_neg (by omega)]
    rfl

/-- The rule replaces the matches that a search with its limit finds. -/
theorem asPregReplace_run (htext : v.toText = .ok t) (hp : Regex.parse e.toList = .ok p)
    (hr : readReplacement p r.toList = .ok ps) (hn : limit.toInt = .ok (some n))
    (hb : b.given = [.text e,.text r,limit]) :
    asPregReplace.run v b =
      if replacementLimit ≤ n.toNat then .error (.fault .tooLarge)
      else .ok (replacedText
        (p.replace (if n.toNat = 0 then none else some n.toNat) (fillPieces ps) t.toList)) := by
  have hpattern : patternOf (.text e) = .ok p := hp
  have hreplacement : replacementOf p (.text r) = .ok (true,ps) := by
    rw [replacementOf,hr]
    rfl
  simp only [asPregReplace,hb,intArgument,hn,htext]
  dsimp only [orFail,Bind.bind,Except.bind]
  rw [substitute_eq,hpattern]
  dsimp only [Bind.bind,Except.bind]
  rw [hreplacement]
  by_cases hlarge : replacementLimit ≤ n.toNat
  · rw [if_pos hlarge,if_pos hlarge]
  · rw [if_neg hlarge,if_neg hlarge]
    rfl

theorem asPregReplace_of_matches (htext : v.toText = .ok t) (hp : Regex.parse e.toList = .ok p)
    (hr : readReplacement p r.toList = .ok ps) (hn : limit.toInt = .ok (some n))
    (hb : b.given = [.text e,.text r,limit]) (hms : p.Matches false (.ofText t.toList) ms) :
    asPregReplace.run v b =
      if replacementLimit ≤ n.toNat then .error (.fault .tooLarge)
      else .ok (substituted ps (if n = 0 then ms else withinLimit n ms) t) := by
  rw [asPregReplace_run htext hp hr hn hb,Regex.replace_eq hms]
  by_cases hzero : n = 0
  · subst hzero
    rfl
  · rw [elim_of_ne_zero hzero,if_neg hzero]
    rfl

/-- A text has one list of matches of a pattern, which with what stands between them make up the
text. The rule replaces those that its limit allows if the limit is not zero and below the largest
number that a search can be given, and then the text behind the last one stays as it is. A limit
of zero, with which nothing is to be replaced, has all matches replaced, so it is kept only where
replacing them makes no difference, and the limits that no search can be given end in a fault. -/
theorem asPregReplace_limited_iff (htext : v.toText = .ok t) (hp : Regex.parse e.toList = .ok p)
    (hr : readReplacement p r.toList = .ok ps) (hn : limit.toInt = .ok (some n))
    (hb : b.given = [.text e,.text r,limit]) :
    ∃ ms, p.Matches false (.ofText t.toList) ms ∧
      (∀ ms', p.Matches false (.ofText t.toList) ms' → ms' = ms) ∧
      (∀ k, replaceFirst Found.text (ms.take k) t.toList = t.toList) ∧
      (0 ≤ n → (withinLimit n ms).length = min n.toNat ms.length) ∧
      (n ≠ 0 → n < replacementLimit →
        asPregReplace.run v b = .ok (substituted ps (withinLimit n ms) t)) ∧
      (n = 0 → asPregReplace.run v b = .ok (substituted ps ms t)) ∧
      (replacementLimit ≤ n → asPregReplace.run v b = .error (.fault .tooLarge)) ∧
      (asPregReplace.run v b = .ok (substituted ps (withinLimit n ms) t) ↔
        n < replacementLimit ∧
          (n = 0 → replaceFirst (fillPieces ps) ms t.toList = t.toList)) := by
  obtain ⟨ms,hms⟩ := p.exists_matches false (.ofText t.toList)
  have hrun := asPregReplace_of_matches htext hp hr hn hb hms
  have hlarge : replacementLimit ≤ n.toNat ↔ (replacementLimit : Int) ≤ n := by
    have hpos : 0 < replacementLimit := Nat.two_pow_pos 63
    omega
  have hmost : (replacementLimit : Int) ≤ n → asPregReplace.run v b = .error (.fault .tooLarge) :=
    fun h => hrun.trans (if_pos (hlarge.mpr h))
  have hless : n < replacementLimit →
      asPregReplace.run v b = .ok (substituted ps (if n = 0 then ms else withinLimit n ms) t) :=
    fun h => hrun.trans (if_neg (mt hlarge.mp (not_le.mpr h)))
  have hzero : n = 0 → asPregReplace.run v b = .ok (substituted ps ms t) := by
    rintro rfl
    exact hless (Int.natCast_pos.mpr (Nat.two_pow_pos 63))
  have hother : n ≠ 0 → n < replacementLimit →
      asPregReplace.run v b = .ok (substituted ps (withinLimit n ms) t) := fun hn h => by
    rw [hless h,if_neg hn]
  refine ⟨ms,hms,fun ms' h => h.unique hms,fun k => hms.replaceFirst_text rfl k,
    fun hn => length_withinLimit hn ms,hother,hzero,hmost,fun hkept => ⟨?_,?_⟩,
    fun ⟨h,hsame⟩ => ?_⟩
  · by_contra h
    rw [hmost (not_lt.mp h)] at hkept
    cases hkept
  · rintro rfl
    rw [hzero rfl,withinLimit_zero] at hkept
    exact String.ofList_inj.mp (Value.text.inj (Outcome.replaced.inj (Except.ok.inj hkept)))
  · by_cases hn : n = 0
    · rw [hzero hn,substituted,hsame hn]
      subst hn
      rfl
    · exact hother hn h

/-- Of three matches the first one is replaced. -/
theorem asPregReplace_limited_iff_once :
    (Value.text "aaa").toText = .ok "aaa" ∧ (Value.int 1).toInt = .ok (some 1) ∧
      ∃ p ps ms, Regex.parse "a".toList = .ok p ∧ readReplacement p "b".toList = .ok ps ∧
        p.Matches false (.ofText "aaa".toList) ms ∧
        asPregReplace.run (.text "aaa") ⟨[.text "a",.text "b",.int 1],[],[]⟩ =
          .ok (substituted ps (withinLimit 1 ms) "aaa") ∧
        asPregReplace.run (.text "aaa") ⟨[.text "a",.text "b",.int 1],[],[]⟩ =
          .ok (.replaced (.text "baa")) := by
  have htext : (Value.text "aaa").toText = .ok "aaa" := rfl
  have hlimit : (Value.int 1).toInt = .ok (some 1) := rfl
  have hb : (Bound.mk [.text "a",.text "b",.int 1] [] []).given =
    [.text "a",.text "b",.int 1] := rfl
  obtain ⟨p,hp⟩ : ∃ p, Regex.parse "a".toList = .ok p := ⟨_,rfl⟩
  have hr : readReplacement p "b".toList = .ok [.text ['b']] := rfl
  obtain ⟨ms,hms,-,-,-,hrun,-⟩ := asPregReplace_limited_iff htext hp hr hlimit hb
  exact ⟨htext,hlimit,p,_,ms,hp,hr,hms,hrun (by decide) (by decide),rfl⟩

/-- With a limit of zero all three are replaced. -/
theorem asPregReplace_not_limited :
    (Value.int 0).toInt = .ok (some 0) ∧ ∃ p ps, Regex.parse "a".toList = .ok p ∧
      readReplacement p "b".toList = .ok ps ∧
      asPregReplace.run (.text "aaa") ⟨[.text "a",.text "b",.int 0],[],[]⟩ =
        .ok (.replaced (.text "bbb")) ∧
      ∀ ms, p.Matches false (.ofText "aaa".toList) ms →
        asPregReplace.run (.text "aaa") ⟨[.text "a",.text "b",.int 0],[],[]⟩ ≠
          .ok (substituted ps (withinLimit 0 ms) "aaa") := by
  have hrun : asPregReplace.run (.text "aaa") ⟨[.text "a",.text "b",.int 0],[],[]⟩ =
    .ok (.replaced (.text "bbb")) := rfl
  refine ⟨rfl,_,_,rfl,rfl,hrun,fun ms _ hkept => ?_⟩
  rw [hrun,withinLimit_zero] at hkept
  exact absurd (Value.text.inj (Outcome.replaced.inj (Except.ok.inj hkept))) (by decide)

end

end Vetting.Rules
