import Vetting.Proofs.Chain.Invocation
import Vetting.Proofs.Rules.Lenient

/-!
# Stray commas

A step may have more arguments than its rule takes by position, and the surplus is dropped
before the rule is called, so that it cannot keep the call from being bound. A comma at the
end of a step is an empty text as one more argument: it is dropped like any other, or stands
where a rule that judges has something that can be left out.
-/
namespace Vetting
open Text

namespace Step

/-- The text of a step without the arguments after the first `k`. -/
def cutAfter (k : Nat) (t : List Char) : List Char := join ',' ((split ',' t).take (k+1))

theorem parse_cutAfter (k : Nat) (t : List Char) :
    parse (cutAfter k t) = { parse t with args := (parse t).args.take k } := by
  obtain ⟨name,args,hs,hp⟩ := parse_eq t
  have hpieces : ∀ piece ∈ (split ',' t).take (k+1), ',' ∉ piece :=
    fun piece hm => not_mem_of_mem_split (List.mem_of_mem_take hm)
  have hcut : split ',' (cutAfter k t) = name :: args.take k := by
    rw [hs,List.take_succ_cons] at hpieces
    rw [cutAfter,hs,List.take_succ_cons,split_join (List.cons_ne_nil _ _) hpieces]
  rw [hp,parse,hcut]

theorem not_mem_cutAfter {c : Char} {t : List Char} (hc : c ≠ ',') (h : c ∉ t) (k : Nat) :
    c ∉ cutAfter k t :=
  not_mem_join hc fun _ hm hmem => h (mem_of_mem_split (List.mem_of_mem_take hm) hmem)

/-- Each comma at the end is an empty argument. -/
theorem parse_append_commas (t : List Char) (m : Nat) :
    parse (t ++ List.replicate m ',') =
      { parse t with args := (parse t).args ++ List.replicate m [] } := by
  have hs : split ',' (t ++ List.replicate m ',') = split ',' t ++ List.replicate m [] := by
    induction m with
    | zero => simp
    | succ m ih =>
        rw [List.replicate_succ',← List.append_assoc,split_append_separator,ih,
          List.replicate_succ',← List.append_assoc]
        rfl
  obtain ⟨name,args,ht,hp⟩ := parse_eq t
  rw [hp,parse,hs,ht]
  rfl

end Step

namespace Run
variable {σ : Setting} {i : Nat} {name : String} {xs ys : List Value}

theorem ofExcept_conclude (σ : Setting) (i : Nat) (x : Except Failure Outcome) :
    (ofExcept x >>= conclude σ i) = ofExcept (x.map Outcome.settled) >>= conclude σ i := by
  cases x with
  | error f => rfl
  | ok o => exact (conclude_settled σ i o).symm

/-- The application of a rule does the same for arguments for which its outcomes cannot be
told apart. -/
theorem apply_eq_of_concur (h : ∀ r, σ.registry.get? name = some r →
      ∀ v, Concur (r.call v xs []) (r.call v ys [])) :
    apply σ i name xs [] = apply σ i name ys [] := by
  unfold apply applyUnder
  rw [if_neg (by simp)]
  cases hr : σ.registry.get? name with
  | none => rfl
  | some r =>
      refine bind_congr fun w => ?_
      rw [ofExcept_conclude,h r hr (w.value i),← ofExcept_conclude]

/-- So does a step in the place of another one of the same name. -/
theorem applyStep_same_of_concur {s s' : Step} (hname : s'.name = s.name)
    (h : ∀ r, σ.registry.get? (String.ofList s.name) = some r → ∀ v,
      Concur (r.call v (Strand.passedOn r.arity s') []) (r.call v (Strand.passedOn r.arity s) [])) :
    Same (applyStep σ i s') (applyStep σ i s) := by
  have hi : s'.isIdle = s.isIdle := by
    rw [Step.isIdle,hname]
    rfl
  cases hidle : s.isIdle with
  | true =>
      rw [applyStep,applyStep,if_pos hidle,if_pos (hi.trans hidle)]
      exact .of_eq (.pure i) rfl
  | false =>
      have hs := applyStep_same σ i hidle
      have hs' := applyStep_same σ i (hi.trans hidle)
      rw [hname,@apply_eq_of_concur σ i _ _ (Strand.passedOn _ s)] at hs'
      · exact hs'.trans hs.symm
      · intro r hr
        rw [Registry.maxArguments_eq,hr]
        exact h r hr

/-- And so does the text of a step. -/
theorem rules_same_of_concur {t t' : List Char} (ht : '|' ∉ t ∧ ';' ∉ t)
    (ht' : '|' ∉ t' ∧ ';' ∉ t') (hname : (Step.parse t').name = (Step.parse t).name)
    (h : ∀ r, σ.registry.get? (String.ofList (Step.parse t).name) = some r → ∀ v,
      Concur (r.call v (Strand.passedOn r.arity (Step.parse t')) [])
        (r.call v (Strand.passedOn r.arity (Step.parse t)) [])) :
    Same (rules σ i (String.ofList t')) (rules σ i (String.ofList t)) :=
  (rules_step_same σ i ht'.1 ht'.2).trans
    ((applyStep_same_of_concur hname h).trans (rules_step_same σ i ht.1 ht.2).symm)

/-- Arguments that are dropped make no difference. -/
theorem rules_cutAfter_same {t : List Char} (ht : '|' ∉ t ∧ ';' ∉ t) {r : Rule} {a k : Nat}
    (hr : σ.registry.get? (String.ofList (Step.parse t).name) = some r)
    (ha : r.arity = some a) (hk : a ≤ k) (i : Nat) :
    Same (rules σ i (String.ofList t)) (rules σ i (String.ofList (Step.cutAfter k t))) := by
  have hcut : '|' ∉ Step.cutAfter k t ∧ ';' ∉ Step.cutAfter k t :=
    ⟨Step.not_mem_cutAfter (by decide) ht.1 k,Step.not_mem_cutAfter (by decide) ht.2 k⟩
  refine (rules_same_of_concur ht hcut (by rw [Step.parse_cutAfter]) ?_).symm
  intro r' hr' v
  cases hr.symm.trans hr'
  rw [Step.parse_cutAfter,ha]
  simp only [Strand.passedOn,List.map_take,List.take_take,Nat.min_eq_left hk]
  exact .refl _

/-- The arguments that are passed on can be bound unless the rule needs an argument by name;
that there are more of them in the step does not matter. -/
theorem bind_passedOn_iff {s : Step} {r : Rule} {k : Nat} (hk : r.arity = some k)
    (hlong : k ≤ s.args.length) :
    (∃ b, r.signature.bind (Strand.passedOn r.arity s) [] = .ok b) ↔
      ∀ p ∈ r.signature.keywords, p.default.isSome = true := by
  have hsize : r.signature.parameters.length = k := by
    rw [Rule.arity,Signature.arity] at hk
    split at hk
    · cases hk
    · exact Option.some.inj hk
  have hlength : (Strand.passedOn r.arity s).length = k := by
    rw [hk]
    simp [Strand.passedOn,hlong]
  rw [Signature.bind_ok_iff,hlength,← hsize,List.drop_length]
  simp

/-- Commas at the end make no difference to a rule that does not tell an empty text from an
argument that is left out. -/
theorem rules_commas_same {t : List Char} (ht : '|' ∉ t ∧ ';' ∉ t) {r : Rule} (hr : r.Lenient)
    (hname : σ.registry.get? (String.ofList (Step.parse t).name) = some r)
    (hargs : ∀ p ∈ r.signature.parameters.drop (Step.parse t).args.length,
      p.default.isSome = true) (m i : Nat) :
    Same (rules σ i (String.ofList (t ++ List.replicate m ','))) (rules σ i (String.ofList t)) := by
  have hcommas : '|' ∉ t ++ List.replicate m ',' ∧ ';' ∉ t ++ List.replicate m ',' := by
    simp [ht]
  refine rules_same_of_concur ht hcommas (by rw [Step.parse_append_commas]) ?_
  intro r' hr' v
  cases hname.symm.trans hr'
  have harity : r.arity = some r.signature.parameters.length := by
    rw [Rule.arity,Signature.arity,hr.closed]
    rfl
  have hvalues : (Step.parse t).args.length = (Step.parse t).values.length := by
    simp [Step.values]
  rw [hvalues] at hargs
  rw [Step.parse_append_commas,harity]
  have hc := hr.concur hargs m v
  simpa [Strand.passedOn,Step.values] using hc

/-- Stray commas do not break a step. Whatever rule of either shape it names, what it does is
settled by the arguments that the rule takes by position, and these can always be bound unless
the rule needs an argument by name. If the rule is a standard one that judges, other than
membership, and has the arguments that it needs, commas at the end of the step make no
difference. -/
theorem stray_commas_harmless (mail : Rules.MailReader) {t : List Char}
    (ht : '|' ∉ t ∧ ';' ∉ t) (i : Nat) :
    (∀ r a k, σ.registry.get? (String.ofList (Step.parse t).name) = some r →
      r.arity = some a → a ≤ k → k < (Step.parse t).args.length →
      Same (rules σ i (String.ofList t)) (rules σ i (String.ofList (Step.cutAfter k t))) ∧
      ((∃ b, r.signature.bind (Strand.passedOn r.arity (Step.parse t)) [] = .ok b) ↔
        ∀ p ∈ r.signature.keywords, p.default.isSome = true)) ∧
    (σ.registry = Rules.standard mail → ∀ e ∈ Rules.validators mail, e.1 ≠ "in" →
      String.ofList (Step.parse t).name ∈ e.1 :: e.2.1 →
      (∀ p ∈ e.2.2.signature.parameters.drop (Step.parse t).args.length,
        p.default.isSome = true) →
      ∀ m, Same (rules σ i (String.ofList (t ++ List.replicate m ',')))
        (rules σ i (String.ofList t))) := by
  refine ⟨?_,?_⟩
  · intro r a k hr ha hk hlong
    exact ⟨rules_cutAfter_same ht hr ha hk i,bind_passedOn_iff ha (hk.trans hlong.le)⟩
  · intro hσ e he hin hname hargs m
    have hr : σ.registry.get? (String.ofList (Step.parse t).name) = some e.2.2 := by
      rw [hσ]
      exact Rules.get?_of_entry (List.mem_append_right _ he) hname
    exact rules_commas_same ht (Rules.validators_lenient e he hin) hr hargs m i

/-- A comparison with a surplus argument, and one with commas after its bound. -/
theorem stray_commas_harmless_gt :
    let σ : Setting := ⟨Rules.standard .none,.standard,false⟩
    Same (rules σ 0 "gt,1,low,more") (rules σ 0 "gt,1,low") ∧
      Same (rules σ 0 " gt ,1,,,") (rules σ 0 " gt ,1") := by
  intro σ
  have hlong : '|' ∉ "gt,1,low,more".toList ∧ ';' ∉ "gt,1,low,more".toList := by decide
  have hshort : '|' ∉ " gt ,1".toList ∧ ';' ∉ " gt ,1".toList := by decide
  have hgt : ("gt",[],Rules.gt) ∈ Rules.validators .none := by
    simp [Rules.validators]
  refine ⟨?_,?_⟩
  · have hbound := (stray_commas_harmless (σ := σ) .none hlong 0).1 Rules.gt 2 2 rfl rfl le_rfl
    exact (hbound (by decide)).1
  · refine (stray_commas_harmless (σ := σ) .none hshort 0).2 rfl _ hgt (by decide) (by decide) ?_ 3
    intro p hp
    cases List.mem_singleton.mp hp
    rfl

end Run

end Vetting
