import Vetting.Chain.Member
import Vetting.Proofs.Chain.Composition
import Vetting.Proofs.Expression.RoundTrip

/-!
# Ways of calling a rule

A rule can be applied to a node by its name, called as a member of the node, or written down
as an expression of a single step. A step that can be written is read back as it is, and its
rule is given the arguments that it takes, so that all three do the same. Only as a member a
rule can be out of reach, namely where the name is taken or kept out.
-/
namespace Vetting
open Text

/-- The arguments of a step as values. -/
def Step.values (s : Step) : List Value := s.args.map fun a => .text (String.ofList a)

namespace Expression
variable {t : List Char}

/-- A text without bars and semicolons is a single step, and none at all if it is blank. -/
theorem parse_step (hbar : '|' ∉ t) (hsemicolon : ';' ∉ t) :
    parse t = if isBlankText t then [] else [[Step.parse t]] := by
  rw [parse,segments,split_of_not_mem hbar,List.filter_cons,List.filter_nil]
  cases isBlankText t with
  | true => rfl
  | false =>
      rw [if_pos (by rfl),List.map_singleton,parseAlternative,split_of_not_mem hsemicolon]
      rfl

end Expression

/-- A step read from blanks has no name. -/
theorem Step.isIdle_of_blank {t : List Char} (h : isBlankText t = true) :
    (Step.parse t).isIdle = true := by
  have hcomma : ',' ∉ t := fun hm => by
    have hb : isBlank ',' = true := List.all_eq_true.mp h _ hm
    exact absurd hb (by decide)
  have hstart : trimStart t = [] :=
    List.dropWhile_eq_nil_iff.mpr fun c hc => List.all_eq_true.mp h c hc
  have htrim : trim t = [] := by
    rw [trim,hstart]
    rfl
  rw [Step.parse,split_of_not_mem hcomma]
  dsimp only [Step.isIdle]
  rw [htrim]
  rfl

namespace Run
variable {σ : Setting} {i : Nat} {s : Step} {t : List Char}

/-- A single step does what it does in an expression; the step of a blank text, which an
expression drops, does nothing. -/
theorem rules_step_same (σ : Setting) (i : Nat) (hbar : '|' ∉ t) (hsemicolon : ';' ∉ t) :
    Same (rules σ i (String.ofList t)) (applyStep σ i (Step.parse t)) := by
  refine (rules_same σ i _).trans (.of_eq (applyStep_blind σ i _) ?_)
  rw [String.toList_ofList,Expression.parse_step hbar hsemicolon]
  cases hb : isBlankText t with
  | true =>
      rw [applyStep,if_pos (Step.isIdle_of_blank hb)]
      rfl
  | false => simp [applyAlternatives]

theorem stepArguments_same (σ : Setting) (name : String) (s : Step) :
    Same (stepArguments σ name s.values)
      (pure (Strand.passedOn (σ.registry.maxArguments name) s)) := by
  intro w
  unfold stepArguments Strand.passedOn
  cases σ.registry.maxArguments name with
  | none => exact .pure _ (.refl w)
  | some n =>
      dsimp only
      split
      · exact .of_exec (exec_bind_of_ok (exec_log _ _ w) _) (exec_pure _ w) ⟨_,rfl⟩
      · rename_i hle
        rw [← Step.values,List.take_of_length_le (Nat.le_of_not_lt hle)]
        exact .pure _ (.refl w)

/-- A step applies the rule of its name to the arguments that the rule takes. -/
theorem applyStep_same (σ : Setting) (i : Nat) (hs : s.isIdle = false) :
    Same (applyStep σ i s)
      (apply σ i (String.ofList s.name)
        (Strand.passedOn (σ.registry.maxArguments (String.ofList s.name)) s) []) := by
  have hstep : applyStep σ i s = (do
      let args ← stepArguments σ (String.ofList s.name) s.values
      apply σ i (String.ofList s.name) args []) := by
    rw [applyStep,if_neg (by simp [hs])]
    rfl
  rw [hstep]
  exact .bind (stepArguments_same σ _ s)
    (fun args => .of_eq (apply_blind σ i _ args []) rfl) fun args => apply_blind σ i _ args []

theorem passedOn_of_le {limit : Option Nat}
    (h : ∀ k, limit = some k → s.args.length ≤ k) : Strand.passedOn limit s = s.values := by
  cases limit with
  | none => rfl
  | some k =>
      refine List.take_of_length_le ?_
      rw [List.length_map]
      exact h k rfl

/-- A step that can be written, and that gives its rule no more arguments than it takes, does
as an expression what the application of the rule does. -/
theorem rules_render_same (hs : s.Writable) (hname : s.isIdle = false)
    (hargs : ∀ k, σ.registry.maxArguments (String.ofList s.name) = some k →
      s.args.length ≤ k) (i : Nat) :
    Same (rules σ i (String.ofList s.render))
      (apply σ i (String.ofList s.name) s.values []) := by
  have hbar : '|' ∉ s.render :=
    Step.not_mem_render (by decide) fun part hp => (hs.plain part hp).1
  have hsemicolon : ';' ∉ s.render :=
    Step.not_mem_render (by decide) fun part hp => (hs.plain part hp).2.1
  have hr := rules_step_same σ i hbar hsemicolon
  have ha := applyStep_same σ i hname
  rw [hs.parse_render] at hr
  rw [passedOn_of_le hargs] at ha
  exact hr.trans ha

section
variable {name : String} {call : List Value → Named Value → Run Nat}

/-- A name stands for the rule that is registered under it unless it is taken by the node
itself or begins with an underscore. -/
theorem member_iff (h : σ.registry.contains name = true) :
    (∃ call, member σ i name = .ok (.rule call)) ↔
      Member.isOwn name = false ∧ name.startsWith "_" = false := by
  unfold member
  cases Member.isOwn name with
  | true => simp
  | false => cases name.startsWith "_" <;> simp [h]

theorem eq_apply_of_member (h : member σ i name = .ok (.rule call)) :
    call = apply σ i name := by
  unfold member at h
  split at h
  · cases h
  · split at h
    · cases h
    · cases h
      rfl

end

/-- The ways of calling a rule agree. An expression of one step and the application of its
rule come to the same for every registered name that can be written, and so does the member
of that name, where it is the rule: where no member of the node goes by the name and the name
does not begin with an underscore. Any registry will do, as its rules give a verdict or a new
value. -/
theorem invocations_agree (hs : s.Writable) (hname : s.isIdle = false)
    (hreg : σ.registry.contains (String.ofList s.name) = true)
    (hargs : ∀ k, σ.registry.maxArguments (String.ofList s.name) = some k →
      s.args.length ≤ k) (i : Nat) :
    let name := String.ofList s.name
    let text := String.ofList s.render
    Same (rules σ i text) (apply σ i name s.values []) ∧
      ((∃ call, member σ i name = .ok (.rule call)) ↔
        Member.isOwn name = false ∧ name.startsWith "_" = false) ∧
      ∀ call, member σ i name = .ok (.rule call) → invoke σ i name = call ∧
        Same (rules σ i text) (call s.values []) ∧
          Same (apply σ i name s.values []) (call s.values []) := by
  intro name text
  have hsame : Same (rules σ i text) (apply σ i name s.values []) :=
    rules_render_same hs hname hargs i
  refine ⟨hsame,member_iff hreg,?_⟩
  intro call hcall
  refine ⟨invoke_of_member hcall,?_⟩
  rw [eq_apply_of_member hcall]
  exact ⟨hsame,.of_eq (apply_blind σ i name s.values []) rfl⟩

/-- A comparison, in the three ways. -/
theorem invocations_agree_between :
    let σ : Setting := ⟨Rules.standard .none,.standard,false⟩
    let args : List Value := [.text "1",.text "5"]
    Same (rules σ 0 "between,1,5") (apply σ 0 "between" args []) ∧
      Same (rules σ 0 "between,1,5") (invoke σ 0 "between" args []) := by
  intro σ args
  have hs : (Step.mk "between".toList ["1".toList,"5".toList]).Writable :=
    ⟨by decide,by decide⟩
  have h := invocations_agree (σ := σ) hs rfl rfl (by rintro k ⟨⟩; decide) 0
  obtain ⟨hsame,hmember,hcall⟩ := h
  obtain ⟨call,hm⟩ := hmember.mpr ⟨by decide,by simp⟩
  obtain ⟨hinvoke,hrule,-⟩ := hcall call hm
  rw [← hinvoke] at hrule
  exact ⟨hsame,hrule⟩

/-- A rule that nothing passes. -/
def refusal : Rule where
  label := "fail"
  signature := {}
  run _ _ := .ok (.verdict false (.text "always fails") "alwaysFail" [])

/-- Two names that can be written and are registered, but that are out of reach as members:
one begins with an underscore, the other one is taken. -/
theorem invocations_differ :
    let σ : Setting := ⟨(Registry.empty.register "_fail" refusal []).register "value" refusal [],
      .standard,false⟩
    let w := ((seed (.int 5) none false).exec .empty).2
    (∀ name ∈ ["_fail","value"], (Step.mk name.toList []).Writable ∧
      σ.registry.contains name = true ∧
      ((rules σ 0 name).exec w).1 = .ok 0 ∧ ((apply σ 0 name [] []).exec w).1 = .ok 0) ∧
      member σ 0 "_fail" = .error (.unknownMember "_fail") ∧
      (invoke σ 0 "_fail" [] []).exec w = (.error (.unknownMember "_fail"),w) ∧
      member σ 0 "value" = .ok .own := by
  intro σ w
  have hunderscore : "_fail".startsWith "_" = true := by simp
  refine ⟨?_,?_,?_,rfl⟩
  · simp only [List.forall_mem_cons]
    exact ⟨⟨⟨by decide,by decide⟩,rfl,rfl,rfl⟩,⟨⟨by decide,by decide⟩,rfl,rfl,rfl⟩,
      List.forall_mem_nil _⟩
  · rw [member,if_neg (by decide),hunderscore]
    rfl
  · rw [invoke,hunderscore]
    rfl

end Run

end Vetting
