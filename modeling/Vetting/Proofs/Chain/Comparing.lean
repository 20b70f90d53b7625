import Vetting.Proofs.Chain.Account
import Vetting.Proofs.Chain.Application
import Vetting.Proofs.Rules.Answers

/-!
# Comparisons on chains

Where failures are collected, a rule that compares leaves one check more on its node, for a
value that cannot be compared too: that is a failed check. It leaves none if a comparison fails
on the way, or if there are no words for the failure that it comes to.
-/
namespace Vetting
variable {mail : Rules.MailReader}

namespace Run
variable {σ : Setting} {w : World} {i : Nat} {name : String} {rule : Rule} {args : List Value}
  {byName : Named Value}

theorem apply_eq (hrule : σ.registry.get? name = some rule)
    (hnames : ∀ a ∈ byName, a.1 ∉ reservedNames) :
    (apply σ i name args byName).exec w =
      (ofExcept (rule.call (w.value i) args byName) >>= conclude σ i).exec w := by
  have hfree : ¬ (byName.any fun a => reservedNames.contains a.1) = true := by
    simpa using hnames
  rw [apply,applyUnder,if_neg hfree,hrule]
  rfl

/-- Applying a rule to arguments that can be bound is running it on what is bound. -/
theorem exec_apply_of_bind {b : Bound} (hrule : σ.registry.get? name = some rule)
    (hopen : ∀ n ∈ rule.signature.openNames, n ∉ reservedNames)
    (hb : rule.signature.bind args byName = .ok b) : (apply σ i name args byName).exec w =
      (ofExcept (rule.run (w.value i) b) >>= conclude σ i).exec w := by
  have hnames : ∀ a ∈ byName, a.1 ∉ reservedNames := fun a ha =>
    hopen a.1 (Signature.mem_openNames_of_bind hb a ha)
  have hcall : rule.call (w.value i) args byName = rule.run (w.value i) b := by
    rw [Rule.call,hb]
    rfl
  rw [apply_eq hrule hnames,hcall]

/-- Where failures are collected a verdict is recorded, provided that there are words for it if
it is a failure. -/
theorem conclude_verdict_iff (hearly : σ.throwEarly = false) (passed : Bool) (message : Value)
    (name : String) (fields : Named Value) :
    (∃ c, (Effect.checked c).Left w i
        ((conclude σ i (.verdict passed message name fields)).exec w)) ↔
      (passed = false → ∃ s, (failureCall w i message name fields).wording? σ.translator =
        some s) := by
  cases passed with
  | true => exact iff_of_true ⟨_,rfl,rfl,rfl⟩ nofun
  | false =>
      constructor
      · rintro ⟨c,hc⟩ -
        rcases verdict_left σ w i false message name fields with hr | ⟨d,-,hd⟩
        · obtain ⟨⟨f,hf⟩,-⟩ := hr
          rw [hc.1] at hf
          cases hf
        · obtain ⟨s,hs,-⟩ := hd rfl
          exact ⟨s,hs⟩
      · intro h
        obtain ⟨s,hs⟩ := h rfl
        have hr : (conclude σ i (.verdict false message name fields)).exec w =
            (check σ i false message name fields >>= fun _ => pure i).exec w := rfl
        rw [hr,exec_bind,exec_check_worded hs,check.fail,hearly]
        exact ⟨_,rfl,rfl,rfl⟩

/-- A verdict against the value leaves no check but one that is failed. -/
theorem failed_of_verdict (hi : i < w.nodes.size) {message : Value} {fields : Named Value}
    {c : Check} (h : (Effect.checked c).Left w i
      ((conclude σ i (.verdict false message name fields)).exec w)) : ∃ m, c = .failed m := by
  rcases verdict_left σ w i false message name fields with hrefused | ⟨d,hd,hfailed⟩
  · cases h.unique hi hrefused
  · obtain ⟨s,-,rfl⟩ := hfailed rfl
    cases h.unique hi hd
    exact ⟨_,rfl⟩

theorem notMem_reservedNames {k : Rules.Comparison} {b : Bound}
    (hb : k.rule.signature.bind args byName = .ok b) : ∀ a ∈ byName, a.1 ∉ reservedNames := by
  have hopen : ∀ n ∈ k.rule.signature.openNames, n ∉ reservedNames := by
    cases k <;> decide
  exact fun a ha => hopen a.1 (Signature.mem_openNames_of_bind hb a ha)

/-- A rule that compares answers the question that its arguments ask: it leaves a check, unless
there is no answer or there are no words for a failure, and it refuses then. Operands that cannot
be compared never leave a check that is passed. -/
theorem comparison_checks_iff (hreg : σ.registry = Rules.standard mail)
    (hearly : σ.throwEarly = false) (hi : i < w.nodes.size) (hv : (w.value i).WellFormed)
    (hargs : ∀ x ∈ args, x.WellFormed) (hnamed : ∀ a ∈ byName, a.2.WellFormed)
    {k : Rules.Comparison} {b : Bound} (hb : k.rule.signature.bind args byName = .ok b) :
    let r := (apply σ i k.name args byName).exec w
    ∃ q, k.Asks args byName q ∧
      ((∃ c, (Effect.checked c).Left w i r) ↔ ¬ q.Unanswered (w.value i) ∧
        ∀ message fields, k.rule.call (w.value i) args byName =
          .ok (.verdict false message k.name fields) →
            ∃ s, (failureCall w i message k.name fields).wording? σ.translator = some s) ∧
      ((¬ ∃ c, (Effect.checked c).Left w i r) → Effect.refused.Left w i r) ∧
      (q.Incomparable (w.value i) → ∀ c, (Effect.checked c).Left w i r →
        ∃ m, c = .failed m) := by
  intro r
  obtain ⟨q,hasks⟩ := Rules.Comparison.exists_asks hb
  obtain ⟨hfault,hverdict⟩ := hasks.delivers (w.value i)
  have hanswer := Rules.Question.exists_answer_iff hv (hasks.wellFormed hargs hnamed)
  have hrule : σ.registry.get? k.name = some k.rule := by rw [hreg,k.get?_name]
  have hr : r = (ofExcept (k.rule.call (w.value i) args byName) >>= conclude σ i).exec w :=
    apply_eq hrule (notMem_reservedNames hb)
  refine ⟨q,hasks,?_⟩
  cases ha : q.answer (w.value i) with
  | error f =>
      have hrun : r = (.error (.fault f),w) := by rw [hr,hfault f ha]; rfl
      have hnone : ¬ ∃ c, (Effect.checked c).Left w i r := by
        rintro ⟨c,hc⟩
        rw [hrun] at hc
        cases hc.1
      have hun : ¬ ¬ q.Unanswered (w.value i) := by
        rw [← hanswer,ha]
        simp
      refine ⟨iff_of_false hnone fun h => hun h.1,fun _ => ?_,fun _ c hc => ?_⟩
      · rw [hrun]
        exact refused_left rfl rfl
      · exact absurd ⟨c,hc⟩ hnone
  | ok p =>
      obtain ⟨message,fields,hcall⟩ := hverdict p ha
      have hrun : r = (conclude σ i (.verdict p message k.name fields)).exec w := by
        rw [hr,hcall]
        rfl
      have hleft := verdict_left σ w i p message k.name fields
      rw [← hrun] at hleft
      refine ⟨?_,fun hnone => hleft.resolve_right ?_,fun hinc c hc => ?_⟩
      · rw [hrun,conclude_verdict_iff hearly p message k.name fields,
          and_iff_right (hanswer.mp ⟨p,ha⟩)]
        constructor
        · rintro h message' fields' hcall'
          rw [hcall] at hcall'
          cases hcall'
          exact h rfl
        · rintro h rfl
          exact h message fields hcall
      · rintro ⟨c,hc,-⟩
        exact hnone ⟨c,hc⟩
      · obtain rfl := Rules.Question.answer_of_incomparable hinc ha
        rw [hrun] at hc
        exact failed_of_verdict hi hc

/-- A list and a number cannot be compared. -/
theorem comparison_checks_iff_list :
    let σ : Setting := ⟨Rules.standard .none,.standard,false⟩
    let w := ((seed (.list [.int 1]) none false).exec .empty).2
    ∃ m, (Effect.checked (.failed m)).Left w 0 ((apply σ 0 "gte" [.int 1] []).exec w) := by
  intro σ w
  have hone : (Value.int 1).WellFormed := .scalar rfl
  have hvalue : (w.value 0).WellFormed := .list fun x hx => List.mem_singleton.mp hx ▸ hone
  have hnone : (w.value 0).looseCompare (.int 1) = .ok none := rfl
  have hb : Rules.gte.signature.bind [.int 1] [] = .ok ⟨[.int 1,.null],[],[]⟩ := rfl
  obtain ⟨q,⟨b,hb',hq⟩,hiff,-,hfailed⟩ :=
    comparison_checks_iff (σ := σ) (k := .gte) rfl rfl (i := 0) (by decide) hvalue
      (fun x hx => List.mem_singleton.mp hx ▸ hone) (List.forall_mem_nil _) hb
  cases hb.symm.trans hb'
  cases hq
  have hanswered : ¬ (w.value 0).BreaksLoosely (.int 1) :=
    (Value.exists_looseCompare_iff hvalue hone).mp ⟨none,hnone⟩
  obtain ⟨c,hc⟩ := hiff.mpr ⟨hanswered,fun message fields hcall => by
    cases hcall
    exact ⟨"must be greater than or equal to 1",by decide +kernel⟩⟩
  obtain ⟨m,rfl⟩ := hfailed hnone c hc
  exact ⟨m,hc⟩

/-- A signalling NaN has no value as a number, and that fails the rule itself. -/
theorem signalling_not_checked :
    let σ : Setting := ⟨Rules.standard .none,.standard,false⟩
    let w := ((seed (.decimal (.signalNaN false 0)) none false).exec .empty).2
    let r := (apply σ 0 "eq" [.int 1] []).exec w
    r.1 = .error (.fault .badValue) ∧ ¬ ∃ c, (Effect.checked c).Left w 0 r := by
  intro σ w r
  have hr : r.1 = .error (.fault .badValue) := rfl
  refine ⟨hr,?_⟩
  rintro ⟨c,hc⟩
  rw [hc.1] at hr
  cases hr

end Run

end Vetting
