import Vetting.Proofs.Chain.Comparing
import Vetting.Proofs.Rules.Rounding

/-!
# Rounding on chains

A rule that rounds makes a new node with a binary number of every value that comes to one. What
is no finite number is carried over to the new node. Values that come to no number are refused.
-/
namespace Vetting
variable {mail : Rules.MailReader}

namespace Run
variable {σ : Setting} {w : World} {i : Nat} {args : List Value} {byName : Named Value}
  {k : Rules.Rounder} {b : Bound}

theorem rounder_openNames (k : Rules.Rounder) :
    ∀ n ∈ k.rule.signature.openNames, n ∉ reservedNames := by
  cases k <;> decide

/-- A rule that rounds makes a new node with a binary number exactly of the values that come to
one, and it is refused for others. An infinity, or what is no number, stays the same. -/
theorem rounders_accept_iff (hreg : σ.registry = Rules.standard mail) (hv : (w.value i).Proper)
    (hb : k.rule.signature.bind args byName = .ok b) (hknown : k.Known b) :
    let r := (apply σ i k.name args byName).exec w
    ((∃ y, (Effect.replaced (.float y)).Left w i r) ↔ ¬ (w.value i).Unfloatable) ∧
      ((w.value i).Unfloatable → Effect.refused.Left w i r) ∧
      ∀ x, (w.value i).Unbounded x → ¬ (w.value i).Unfloatable →
        (Effect.replaced (.float x)).Left w i r := by
  intro r
  have hrule : σ.registry.get? k.name = some k.rule := by rw [hreg,k.get?_name]
  have hr : r = (ofExcept (k.rule.run (w.value i) b) >>= conclude σ i).exec w :=
    exec_apply_of_bind hrule (rounder_openNames k) hb
  rcases Value.toFloat_cases hv with ⟨hgood,x,hx,hformat⟩ | ⟨hbad,f,hf⟩
  · obtain ⟨y,hrun,hsame⟩ := Rules.Rounder.exists_run hb hknown hx hformat
    have hleft : (Effect.replaced (.float y)).Left w i r := by
      rw [hr,hrun]
      exact derive_left i (.float y) w
    refine ⟨iff_of_true ⟨y,hleft⟩ hgood,fun h => absurd h hgood,fun z hz _ => ?_⟩
    have hread := Value.toFloat_of_unbounded hz hgood
    rw [hx] at hread
    cases hread
    rwa [hsame hz.isFinite_eq] at hleft
  · have hrefused : r = (.error (.fault f),w) := by
      rw [hr,Rules.Rounder.run_error hb hknown hf]
      rfl
    refine ⟨iff_of_false ?_ (not_not.mpr hbad),fun _ => ?_,fun _ _ h => absurd hbad h⟩
    · rintro ⟨y,hy⟩
      rw [hrefused] at hy
      cases hy.1
    · rw [hrefused]
      exact refused_left rfl rfl

/-- A negative infinity among decimals, rounded to two places. -/
theorem rounders_accept_iff_infinite :
    let σ : Setting := ⟨Rules.standard .none,.standard,false⟩
    let w := ((seed (.decimal (.infinite true)) none false).exec .empty).2
    (Effect.replaced (.float (.infinite true))).Left w 0
      ((apply σ 0 "asRound" [.text "2"] []).exec w) := by
  intro σ w
  have hvalue : w.value 0 = .decimal (.infinite true) := rfl
  have hgood : ¬ (Value.decimal (.infinite true)).Unfloatable := by
    rintro (_ | _ | ⟨h⟩ | ⟨h⟩) <;> cases h
  have hplaces : (Value.text "2").toInt = .ok (some 2) := by decide +kernel
  have hb : Rules.asRound.signature.bind [.text "2"] [] =
      .ok ⟨[.text "2",.text "half_up"],[],[]⟩ := rfl
  have hknown : Rules.Rounder.round.Known ⟨[.text "2",.text "half_up"],[],[]⟩ :=
    ⟨_,_,2,"half_up",.up,rfl,hplaces,by decide,by decide,rfl,by decide +kernel⟩
  obtain ⟨-,-,hsame⟩ := rounders_accept_iff (σ := σ) (w := w) (i := 0) (k := .round) rfl
    (fun x hx => nomatch hvalue.symm.trans hx) hb hknown
  exact hsame (.infinite true) .infinite hgood

/-- An integer of 401 digits is refused by all of these rules, and makes no new node. -/
theorem large_not_rounded :
    let σ : Setting := ⟨Rules.standard .none,.standard,false⟩
    let w := ((seed (.int (10 ^ 400)) none false).exec .empty).2
    ∀ k : Rules.Rounder,
      let r := (apply σ 0 k.name [] []).exec w
      r.1 = .error (.fault .tooLarge) ∧ ¬ ∃ v, (Effect.replaced v).Left w 0 r := by
  intro σ w k r
  have hread : (w.value 0).toFloat = .error .tooLarge := by
    have hlarge : (Value.int (10 ^ 400)).toFloat = .error .tooLarge := by decide +kernel
    exact hlarge
  have hbound : ∃ b, k.rule.signature.bind [] [] = .ok b ∧ k.Known b := by
    cases k with
    | floor => exact ⟨⟨[],[],[]⟩,rfl,trivial⟩
    | ceil => exact ⟨⟨[],[],[]⟩,rfl,trivial⟩
    | round =>
        exact ⟨⟨[.int 0,.text "half_up"],[],[]⟩,rfl,_,_,0,"half_up",.up,rfl,rfl,by decide,by decide,
          rfl,by decide +kernel⟩
  obtain ⟨b,hb,hknown⟩ := hbound
  have hr : r.1 = .error (.fault .tooLarge) := by
    have hrun := exec_apply_of_bind (σ := σ) (w := w) (i := 0) k.get?_name
      (rounder_openNames k) hb
    rw [Rules.Rounder.run_error hb hknown hread] at hrun
    exact congrArg Prod.fst hrun
  refine ⟨hr,?_⟩
  rintro ⟨v,hv⟩
  rw [hv.1] at hr
  cases hr

end Run

end Vetting
