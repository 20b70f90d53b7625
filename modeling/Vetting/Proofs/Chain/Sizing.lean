import Vetting.Proofs.Chain.Comparing
import Vetting.Proofs.Rules.Sizing

/-!
# Integer arguments on chains

A rule with an argument that has to be an integer uses the integer that the argument spells, or
refuses the argument. It fails in no other way that it does not fail with other integers too,
apart from a few arguments: those that cannot be read, those that cannot be shown in the refusal,
integers that the rule has no use for, and integers that a failed check cannot be worded with.
Decimals, and texts with a point or a power, can also be taken for another integer than they
spell.
-/
namespace Vetting
open Number
variable {mail : Rules.MailReader}

namespace Run
variable {σ : Setting} {w : World} {i j : Nat} {args : List Value} {byName : Named Value}
  {k : Rules.Sizing} {b : Bound} {a : Value} {o : Outcome}

/-- A verdict against a value that there are no words for. -/
def Wordless (σ : Setting) (w : World) (i : Nat) (o : Outcome) : Prop :=
  ∃ message rule fields, o = .verdict false message rule fields ∧
    (failureCall w i message rule fields).wording? σ.translator = none

/-- An outcome without words ends in a fault. Others end in no failure but that of the check. -/
theorem conclude_cases (σ : Setting) (w : World) (i : Nat) (o : Outcome) :
    let r := (conclude σ i o).exec w
    (Wordless σ w i o ∧ ∃ f, r.1 = .error (.fault f)) ∨
      ¬ Wordless σ w i o ∧ ∀ f, r.1 = .error f → ∃ m rule field, f = .failedCheck m rule field := by
  intro r
  cases o with
  | replaced v =>
      refine Or.inr ⟨?_,fun f hf => nomatch hf⟩
      rintro ⟨message,rule,fields,⟨⟩,-⟩
  | verdict passed message rule fields =>
      cases passed with
      | true =>
          refine Or.inr ⟨?_,fun f hf => nomatch hf⟩
          rintro ⟨message',rule',fields',⟨⟩,-⟩
      | false =>
          obtain ⟨ρ,t,early⟩ := σ
          have hr : r = (check ⟨ρ,t,early⟩ i false message rule fields >>= fun _ =>
            pure i).exec w := rfl
          rw [hr,exec_bind]
          cases hwords : (failureCall w i message rule fields).wording? t with
          | none =>
              refine Or.inl ⟨⟨message,rule,fields,rfl,hwords⟩,?_⟩
              rcases exec_check_failed ρ t w i message rule fields with ⟨f,hf⟩ | ⟨s,hs,-⟩
              · rw [hf early]
                exact ⟨f,rfl⟩
              · rw [hwords] at hs
                cases hs
          | some s =>
              refine Or.inr ⟨?_,fun f hf => ?_⟩
              · rintro ⟨message',rule',fields',⟨⟩,hnone⟩
                rw [hwords] at hnone
                cases hnone
              · rw [exec_check_worded hwords] at hf
                cases early with
                | true =>
                    rw [exec_fail_thrown] at hf
                    cases hf
                    exact ⟨_,_,_,rfl⟩
                | false =>
                    rw [exec_fail_added] at hf
                    cases hf

/-- A rule fails with an argument as it does with another integer in its place. -/
def FailsAnyway (w : World) (i : Nat) (k : Rules.Sizing) (b : Bound) (j : Nat) (f : Failure) :
    Prop :=
  k.rule.run (w.value i) b = .error f ∧
    k.rule.run (w.value i) (Rules.boundAt b j (.int (-1))) = .error f

/-- How an argument is to be heeded: the integer that it spells is used, or the argument is
refused for not being read as one, or it is not its fault that the rule fails. -/
inductive Heeded (σ : Setting) (w : World) (i : Nat) (k : Rules.Sizing) (b : Bound) (j : Nat)
    (a : Value) (r : Except Failure Nat × World) : Prop
  | used {n : Int} {o : Outcome} (hn : a.Spells n) (ho : k.rule.run (w.value i) b = .ok o)
      (hint : k.rule.run (w.value i) (Rules.boundAt b j (.int n)) = .ok o)
      (hr : r = (conclude σ i o).exec w)
      (hf : ∀ f, r.1 = .error f → ∃ m rule field, f = .failedCheck m rule field)
  | refused (hnone : ∀ n, ¬ a.ReadAs n) (hr : r = (.error (.notAnInteger k.refuser a),w))
  | anyway {f : Failure} (hr : r = (.error f,w)) (hf : FailsAnyway w i k b j f)

/-- An argument of a rule on a node is misread. -/
def Misread (w : World) (i : Nat) (k : Rules.Sizing) (b : Bound) (j : Nat) (a : Value) : Prop :=
  Rules.Misread (fun a => k.rule.run (w.value i) (Rules.boundAt b j a))
    (fun n => k.Within (w.value i) n) a

/-- A rule comes to a verdict that there are no words for. -/
def Unworded (σ : Setting) (w : World) (i : Nat) (k : Rules.Sizing) (b : Bound) : Prop :=
  ∃ o, k.rule.run (w.value i) b = .ok o ∧ Wordless σ w i o

theorem not_failsAnyway (h : k.rule.run (w.value i) b = .ok o) :
    ¬ ∃ f, FailsAnyway w i k b j f := by
  rintro ⟨f,hf,-⟩
  cases h.symm.trans hf

theorem unworded_iff (h : k.rule.run (w.value i) b = .ok o) :
    Unworded σ w i k b ↔ Wordless σ w i o := by
  refine ⟨?_,fun hwords => ⟨o,h,hwords⟩⟩
  rintro ⟨o',ho,hwords⟩
  cases h.symm.trans ho
  exact hwords

/-- An argument that an outcome is come to with is heeded if there are words for the outcome, and
the integer that it spells comes to the same. -/
theorem heeded_iff_of_ok (h : k.rule.run (w.value i) b = .ok o) :
    Heeded σ w i k b j a ((conclude σ i o).exec w) ↔
      (∃ n, a.Spells n ∧ k.rule.run (w.value i) (Rules.boundAt b j (.int n)) = .ok o) ∧
        ¬ Wordless σ w i o := by
  have hcases := conclude_cases σ w i o
  constructor
  · rintro (⟨hn,ho,hint,-,hfail⟩ | ⟨-,hr⟩ | ⟨-,hf,-⟩)
    · cases h.symm.trans ho
      refine ⟨⟨_,hn,hint⟩,fun hwords => ?_⟩
      obtain ⟨-,f,hf⟩ | ⟨hsome,-⟩ := hcases
      · obtain ⟨m,rule,field,⟨⟩⟩ := hfail _ hf
      · exact hsome hwords
    · rw [hr] at hcases
      obtain ⟨-,f,⟨⟩⟩ | ⟨-,hfail⟩ := hcases
      obtain ⟨m,rule,field,⟨⟩⟩ := hfail _ rfl
    · cases h.symm.trans hf
  · rintro ⟨⟨n,hn,hint⟩,hwords⟩
    obtain ⟨hnone,-⟩ | ⟨-,hfail⟩ := hcases
    · exact absurd hnone hwords
    · exact .used hn h hint rfl hfail

theorem heeded_iff_of_fault {f : Fault} (h : k.rule.run (w.value i) b = .error (.fault f)) :
    Heeded σ w i k b j a (.error (.fault f),w) ↔ ∃ f, FailsAnyway w i k b j f := by
  constructor
  · rintro (⟨-,ho,-⟩ | ⟨-,⟨⟩⟩ | ⟨-,hanyway⟩)
    · cases h.symm.trans ho
    · exact ⟨_,hanyway⟩
  · rintro ⟨g,hg⟩
    cases h.symm.trans hg.1
    exact .anyway rfl hg

theorem sizing_openNames (k : Rules.Sizing) :
    ∀ n ∈ k.rule.signature.openNames, n ∉ reservedNames := by
  cases k <;> decide

/-- Integers and their texts are read exactly as far as there are binary numbers for the texts,
and nothing else is read as an integer but what spells it or has a number close to it. The
argument of a rule is heeded unless it is misread or there are no words for what it comes to; and
if the rule fails anyway. -/
theorem integer_arguments_heeded_iff (hreg : σ.registry = Rules.standard mail)
    (hv : (w.value i).Proper) (hb : k.rule.signature.bind args byName = .ok b)
    (hj : j ∈ k.places) (ha : b.given[j]? = some a) :
    let r := (apply σ i k.name args byName).exec w
    (∀ n t, intText n = .ok t → (Value.int n).toInt = .ok (some n) ∧
      ((Value.text t).toInt = .ok (some n) ↔ |(n : ℚ)| < Binary64.overflow)) ∧
    (∀ c : Value, ((∃ f, c.toInt = .error f) ↔ c.Unreadable) ∧
      ∀ n, c.toInt = .ok (some n) → c.Spells n ∨
        ∃ q x, c.Amounts q ∧ Binary64.Nearest q x ∧ x.value? = some (n : ℚ)) ∧
    (Heeded σ w i k b j a r ↔
      (∃ f, FailsAnyway w i k b j f) ∨ ¬ Misread w i k b j a ∧ ¬ Unworded σ w i k b) := by
  intro r
  refine ⟨fun n t ht => ⟨rfl,Value.toInt_exact_iff (Value.denotes_intText ht)⟩,
    fun c => ⟨Value.exists_toInt_error_iff,fun n hn =>
      (Value.toInt_eq_some_iff.mp hn).1.spells_or_closest⟩,?_⟩
  have hlen : b.given.length = k.rule.signature.parameters.length :=
    Signature.length_of_bindAll (Signature.bindAll_of_bind hb).1
  have hself : Rules.boundAt b j a = b := by
    obtain ⟨hlt,rfl⟩ := List.getElem?_eq_some_iff.mp ha
    rw [Rules.boundAt,List.set_getElem_self]
  have hr : r = (ofExcept (k.rule.run (w.value i) b) >>= conclude σ i).exec w :=
    exec_apply_of_bind (hreg ▸ k.get?_name) (sizing_openNames k) hb
  have hreceived := (Rules.staged hv hlen hj).received a
  cases hreceived with
  | @anyway f h hother =>
      rw [hself] at h
      have hrun : r = (.error f,w) := by rw [hr,h]; rfl
      exact iff_of_true (.anyway hrun ⟨h,hother⟩) (Or.inl ⟨f,h,hother⟩)
  | @used n o hgood hn h hint =>
      rw [hself] at h
      have hrun : r = (conclude σ i o).exec w := by rw [hr,h]; rfl
      rw [hrun,heeded_iff_of_ok h,or_iff_right (not_failsAnyway h),unworded_iff h]
      exact and_congr_left' (iff_of_true ⟨n,hn,hint⟩ hgood)
  | refused hgood hnone h =>
      rw [hself] at h
      have hrun : r = (.error (.notAnInteger k.refuser a),w) := by rw [hr,h]; rfl
      refine iff_of_true (.refused hnone hrun) (Or.inr ⟨hgood,?_⟩)
      rintro ⟨o,ho,-⟩
      cases h.symm.trans ho
  | @faulty f hbad h =>
      rw [hself] at h
      have hrun : r = (.error (.fault f),w) := by rw [hr,h]; rfl
      rw [hrun,heeded_iff_of_fault h]
      exact (or_iff_left fun hgood => hgood.1 hbad).symm
  | @blurred o hbad h hint =>
      rw [hself] at h
      have hrun : r = (conclude σ i o).exec w := by rw [hr,h]; rfl
      rw [hrun,heeded_iff_of_ok h,or_iff_right (not_failsAnyway h)]
      refine iff_of_false ?_ fun hgood => hgood.1 hbad
      rintro ⟨⟨n,hn,hsame⟩,-⟩
      exact hint n hn hsame

/-- A text of two characters at most, the bound given as a text, asked of a longer one. -/
theorem integer_arguments_heeded_iff_text :
    let σ : Setting := ⟨Rules.standard .none,.standard,false⟩
    let w := ((seed (.text "abc") none false).exec .empty).2
    Heeded σ w 0 .llte ⟨[.text "2",.null],[],[]⟩ 0 (.text "2")
      ((apply σ 0 "llte" [.text "2"] []).exec w) := by
  intro σ w
  have hproper : (w.value 0).Proper := by
    have hvalue : w.value 0 = .text "abc" := rfl
    intro x hx
    cases hvalue.symm.trans hx
  have htwo : (Value.text "2").toInt = .ok (some 2) := by decide +kernel
  have hdenotes : (Value.text "2").Denotes 2 := Value.denotes_intText (by decide +kernel)
  have hreadable : ¬ (Value.text "2").Unreadable := (Value.toInt_eq_some_iff.mp htwo).2
  have hb : Rules.llte.signature.bind [.text "2"] [] = .ok ⟨[.text "2",.null],[],[]⟩ := rfl
  have hrun : Rules.llte.run (w.value 0) ⟨[.text "2",.null],[],[]⟩ =
      .ok (.verdict false .null "llte" [("x",.int 2)]) := by
    simp only [Rules.llte,Rules.sized,Rules.intArgument,htwo]
    rfl
  have hwords : (failureCall w 0 .null "llte" [("x",.int 2)]).wording? .standard =
      some "must be at most 2 characters long" := by decide +kernel
  obtain ⟨-,-,hiff⟩ := integer_arguments_heeded_iff (σ := σ) (w := w) (i := 0) (k := .llte) (j := 0)
    rfl hproper hb (List.mem_singleton_self 0) rfl
  refine hiff.mpr (Or.inr ⟨fun hbad => ?_,fun hunworded => ?_⟩)
  · exact (Rules.misread_iff_of_readAs (.denoted hdenotes) hreadable trivial).mp hbad 2
      (Value.spells_of_denotes hdenotes) rfl
  · obtain ⟨message,rule,fields,⟨⟩,hnone⟩ := (unworded_iff (k := .llte) hrun).mp hunworded
    cases hwords.symm.trans hnone

theorem overflow_le_ten_pow : Binary64.overflow ≤ |((10 ^ 309 : Int) : ℚ)| := by
  have hpow : (2 : ℚ) ^ 93 ≤ 10 ^ 28 := by norm_num
  rw [abs_of_nonneg (by positivity),Int.cast_pow,Int.cast_ofNat]
  calc Binary64.overflow ≤ 2 ^ 54 * 2 ^ 970 :=
        mul_le_mul_of_nonneg_right (by norm_num) (by positivity)
    _ = (2 ^ 93) ^ 11 * 2 := by rw [← pow_add,← pow_mul,← pow_succ]
    _ ≤ (10 ^ 28) ^ 11 * 10 := by gcongr; norm_num
    _ = 10 ^ 309 := by rw [← pow_mul,← pow_succ]

/-- A text of the integer with a one and 309 zeros is not read, and as an argument it is not
refused. -/
theorem large_argument_not_heeded :
    ∃ t, intText (10 ^ 309) = .ok t ∧ (Value.text t).toInt = .error .tooLarge ∧
      let σ : Setting := ⟨Rules.standard .none,.standard,false⟩
      let w := ((seed (.text "abc") none false).exec .empty).2
      ¬ Heeded σ w 0 .llt ⟨[.text t,.null],[],[]⟩ 0 (.text t)
        ((apply σ 0 "llt" [.text t] []).exec w) := by
  have htext : ∃ t, intText (10 ^ 309) = .ok t :=
    (Value.writes_intText (10 ^ 309)).exists_iff.2.mpr (by decide +kernel)
  obtain ⟨t,ht⟩ := htext
  have hread : (Value.text t).toInt = .error .tooLarge := by
    rw [Value.toInt_of_denotes (Value.denotes_intText ht)]
    rcases Value.intFloat_cases (10 ^ 309) with ⟨hsize,-⟩ | ⟨-,hlarge⟩
    · exact absurd hsize (not_lt.mpr overflow_le_ten_pow)
    · rw [hlarge]
      rfl
  refine ⟨t,ht,hread,?_⟩
  intro σ w hheeded
  have hb : Rules.llt.signature.bind [.text t] [] = .ok ⟨[.text t,.null],[],[]⟩ := rfl
  have hrun : Rules.llt.run (w.value 0) ⟨[.text t,.null],[],[]⟩ = .error (.fault .tooLarge) := by
    simp only [Rules.llt,Rules.sized,Rules.intArgument,hread]
    rfl
  have hr : (apply σ 0 "llt" [.text t] []).exec w = (.error (.fault .tooLarge),w) := by
    have hrule : σ.registry.get? "llt" = some Rules.llt := Rules.Sizing.get?_name .llt
    rw [exec_apply_of_bind hrule (sizing_openNames .llt) hb,hrun]
    rfl
  rw [hr] at hheeded
  rcases hheeded with ⟨-,ho,-⟩ | ⟨-,⟨⟩⟩ | ⟨⟨⟩,-,hother⟩
  · cases hrun.symm.trans ho
  · have hverdict : Rules.llt.run (w.value 0) ⟨[.int (-1),.null],[],[]⟩ =
        .ok (.verdict false .null "llt" [("x",.int (-1))]) := rfl
    cases hverdict.symm.trans hother

end Run

end Vetting
