import Vetting.Proofs.Chain.Drawing

/-!
# Names that stand for nothing

A step whose name is not registered fails, wherever it stands in an expression: an
alternative that is valid already does not keep the later ones from being run, and a failed
check does not keep the later steps from it. The first such step fails unless a step before
it does. Until then the node that the expression is applied to has been given the checks of
the steps that ran on it, which are steps of the first alternative, up to the first one that
makes a new node.
-/
namespace Vetting
open Text

/-- Whether there is a rule for a step, if it needs one. -/
def Setting.knows (σ : Setting) (s : Step) : Bool :=
  s.isIdle || σ.registry.contains (String.ofList s.name)

/-- The checks that steps make on the node that they start on: the first step that makes a
new node leaves it behind. -/
def Strand.ownChecks (σ : Setting) (h : Heading) (v : Value) :
    List Step → Except Failure (List Check)
  | [] => .ok []
  | s :: rest =>
      if s.isIdle then ownChecks σ h v rest
      else match σ.registry.get? (String.ofList s.name) with
        | none => .error (.unknownRule (String.ofList s.name))
        | some r => do
            match ← r.call v (passedOn r.arity s) [] with
            | .replaced _ => .ok []
            | .verdict passed message rule fields =>
                let c ← h.judge σ v passed message rule fields
                (ownChecks σ h v rest).map (c :: ·)

namespace Strand
variable {σ : Setting} {h : Heading} {v : Value} {s : Step} {r : Rule}

theorem ownChecks_idle (hs : s.isIdle = true) (rest : List Step) :
    ownChecks σ h v (s :: rest) = ownChecks σ h v rest := by
  rw [ownChecks,if_pos hs]

theorem ownChecks_replaced {x : Value} (hs : s.isIdle = false)
    (hr : σ.registry.get? (String.ofList s.name) = some r)
    (ho : r.call v (passedOn r.arity s) [] = .ok (.replaced x)) (rest : List Step) :
    ownChecks σ h v (s :: rest) = .ok [] := by
  rw [ownChecks,if_neg (by simp [hs]),hr]
  dsimp only
  rw [ho]
  rfl

theorem ownChecks_verdict {passed : Bool} {message : Value} {rule : String}
    {fields : Named Value} {c : Check} (hs : s.isIdle = false)
    (hr : σ.registry.get? (String.ofList s.name) = some r)
    (ho : r.call v (passedOn r.arity s) [] = .ok (.verdict passed message rule fields))
    (hc : h.judge σ v passed message rule fields = .ok c) (rest : List Step) :
    ownChecks σ h v (s :: rest) = (ownChecks σ h v rest).map (c :: ·) := by
  rw [ownChecks,if_neg (by simp [hs]),hr]
  dsimp only
  rw [ho]
  change (h.judge σ v passed message rule fields >>= fun c =>
    (ownChecks σ h v rest).map (c :: ·)) = _
  rw [hc]
  rfl

end Strand

/-- The first step of a row of alternatives that there is no rule for, with the alternatives
before its own and the steps before it there. -/
structure Setting.FirstUnknown (σ : Setting) (e before : List Alternative) (pre : Alternative)
    (s : Step) : Prop where
  split : ∃ post rest, e = before ++ (pre ++ s :: post) :: rest
  unknown : σ.knows s = false
  before_known : ∀ a ∈ before, ∀ t ∈ a, σ.knows t = true
  pre_known : ∀ t ∈ pre, σ.knows t = true

theorem Setting.exists_firstUnknown {σ : Setting} {e : List Alternative}
    (h : ∃ a ∈ e, ∃ s ∈ a, σ.knows s = false) : ∃ before pre s, σ.FirstUnknown e before pre s := by
  obtain ⟨a,ha⟩ := Option.isSome_iff_exists.mp
    (List.find?_isSome (p := fun a : Alternative => a.any fun s => !σ.knows s).mpr
      (by simpa using h))
  obtain ⟨hfails,before,rest,he,hbefore⟩ := List.find?_eq_some_iff_append.mp ha
  obtain ⟨s,hs⟩ := Option.isSome_iff_exists.mp
    (List.find?_isSome (p := fun s => !σ.knows s).mpr (List.any_eq_true.mp hfails))
  obtain ⟨hu,pre,post,hsplit,hpre⟩ := List.find?_eq_some_iff_append.mp hs
  refine ⟨before,pre,s,⟨post,rest,by rw [he,hsplit]⟩,by simpa using hu,?_,?_⟩
  · simpa using hbefore
  · simpa using hpre

namespace Run
variable {σ : Setting} {w u : World} {i j : Nat}

/-! ## The checks of a node -/

/-- Steps that do not stop the run have made their own checks on the node that they started
on. -/
theorem steps_own_checks {steps : List Step} (h : w.Holds i)
    (hx : (steps.foldlM (applyStep σ) i).exec w = (.ok j,u)) :
    ∃ cs, Strand.ownChecks σ (w.node i).heading (w.value i) steps = .ok cs ∧
      (u.node i).checks = (w.node i).checks ++ cs := by
  induction steps generalizing w with
  | nil =>
      cases hx
      exact ⟨[],rfl,(List.append_nil _).symm⟩
  | cons s rest ih =>
      rw [List.foldlM_cons] at hx
      obtain ⟨k,v,hs,hrest⟩ := exists_of_exec_bind hx
      cases hidle : s.isIdle with
      | true =>
          rw [applyStep,if_pos hidle] at hs
          cases hs
          rw [Strand.ownChecks_idle hidle]
          exact ih h hrest
      | false =>
          obtain ⟨r,o,hr,ho,hdrawn⟩ := applyStep_drawn h hidle hs
          cases o with
          | verdict passed message rule fields =>
              obtain ⟨rfl,c,hjudge,hv⟩ := hdrawn
              obtain ⟨cs,hcs,hu⟩ := ih hv.holds hrest
              have hvalue : v.value k = w.value k := congrArg Strand.value hv.strand
              have hchecks : (v.node k).checks = (w.node k).checks ++ [c] :=
                congrArg Strand.checks hv.strand
              rw [hv.heading,hvalue] at hcs
              rw [hchecks,List.append_assoc] at hu
              refine ⟨c :: cs,?_,hu⟩
              rw [Strand.ownChecks_verdict hidle hr ho hjudge,hcs]
              rfl
          | replaced x =>
              obtain ⟨hlt,hk,hnode⟩ := hdrawn
              have hsteady := (steps_steady (v.openFrom_scope k) (v.scope_self k)
                hk).of_ok hrest
              have hkeep : u.node i = v.node i := by
                refine hsteady.1.node_eq i (hlt.trans hk.lt) ?_
                rintro (rfl | hge)
                · exact Nat.lt_irrefl _ hlt
                · exact Nat.not_lt.mpr hge (hlt.trans hk.lt)
              refine ⟨[],Strand.ownChecks_replaced hidle hr ho rest,?_⟩
              rw [hkeep,hnode,List.append_nil]

/-- Later alternatives are run on new nodes, so that those of the first one's checks that
are its own are all there is. -/
theorem alternatives_own_checks {a : Alternative} {as : List Alternative} (h : w.Holds i)
    (hx : (applyAlternatives σ i (a :: as)).exec w = (.ok j,u)) :
    ∃ cs, Strand.ownChecks σ (w.node i).heading (w.value i) a = .ok cs ∧
      (u.node i).checks = (w.node i).checks ++ cs := by
  obtain ⟨k,v,hsteps,hrest⟩ := exists_of_exec_bind hx
  obtain ⟨cs,hcs,hv⟩ := steps_own_checks h hsteps
  obtain ⟨hw,-,hk⟩ := (steps_steady (w.openFrom_scope i) (w.scope_self i) h).of_ok hsteps
  refine ⟨cs,hcs,?_⟩
  cases as with
  | nil =>
      cases hrest
      exact hv
  | cons b bs =>
      obtain ⟨l,x,hfork,hmore⟩ := exists_of_exec_bind hrest
      obtain ⟨hx,-,hl⟩ := (fork_steady (v.openFrom_scope k) hk).of_ok hfork
      obtain ⟨y,hy,-,hn⟩ := exec_fork v k
      cases hy.symm.trans hfork
      obtain ⟨hu,-,-⟩ := (applyAlternatives_steady (x.openFrom_scope v.nodes.size)
        (x.scope_self _) hl).of_ok hmore
      have hi : i < v.nodes.size := h.lt.trans_le hw.nodes_le
      have hnew : ¬ (x.scope v.nodes.size).node i := by
        rintro (rfl | hge)
        · exact Nat.lt_irrefl _ hi
        · exact Nat.not_lt.mpr (hge.trans' hx.nodes_le) hi
      have hkeep : u.node i = v.node i := by
        rw [hu.node_eq i (hi.trans_le hx.nodes_le) hnew,World.node_push hn,
          if_neg (Nat.ne_of_lt hi)]
      rw [hkeep,hv]

/-! ## The first unknown name -/

theorem exec_unknown_step {s : Step} (hs : σ.knows s = false) (i : Nat) (w : World) :
    (applyStep σ i s).exec w = (.error (.unknownRule (String.ofList s.name)),w) := by
  obtain ⟨hidle,hname⟩ := Bool.or_eq_false_iff.mp hs
  have hr : σ.registry.get? (String.ofList s.name) = none := by
    simpa [Registry.contains] using hname
  rw [applyStep,if_neg (by simp [hidle])]
  dsimp only
  rw [stepArguments,Registry.maxArguments_eq,hr]
  change (apply σ i _ _ []).exec w = _
  rw [apply,applyUnder,if_neg (by simp),hr]
  rfl

/-- What stands before the first unknown step is run, and the step fails if that has not
failed. -/
theorem exec_firstUnknown {e before : List Alternative} {pre : Alternative} {s : Step}
    (h : σ.FirstUnknown e before pre s) (i : Nat) (w : World) :
    (applyAlternatives σ i e).exec w =
      match (applyAlternatives σ i (before ++ [pre])).exec w with
      | (.ok _,u) => (.error (.unknownRule (String.ofList s.name)),u)
      | (.error f,u) => (.error f,u) := by
  obtain ⟨post,rest,he⟩ := h.split
  have hs : ∀ j u, (applyAlternatives σ j ((s :: post) :: rest)).exec u =
      (.error (.unknownRule (String.ofList s.name)),u) := by
    intro j u
    rw [applyAlternatives,List.foldlM_cons]
    exact exec_bind_of_error (exec_bind_of_error (exec_unknown_step h.unknown j u) _) _
  rw [he,applyAlternatives_join,exec_bind]
  generalize (applyAlternatives σ i (before ++ [pre])).exec w = r
  obtain ⟨r,u⟩ := r
  cases r with
  | error f => rfl
  | ok j => exact hs j u

/-- An expression with a name that stands for nothing never comes to a result, whatever the
other steps and alternatives come to. Unless a step before it fails, the first such name is
what the failure is about, and by then the node has been given its own checks of the steps
before it, and no others. Any registry will do, as its rules give a verdict or a new value and
register nothing. -/
theorem unknown_rule_fails {source : String} {g p : List Char}
    (hg : g ∈ Expression.segments source.toList) (hp : p ∈ split ';' g)
    (hu : σ.knows (Step.parse p) = false) (h : w.Holds i) :
    (∃ f, ((rules σ i source).exec w).1 = .error f) ∧
    ∃ before pre s, σ.FirstUnknown (Expression.parse source.toList) before pre s ∧
      ∀ r u, (applyAlternatives σ i (before ++ [pre])).exec w = (r,u) →
        match r with
        | .error f => (rules σ i source).exec w = (.error f,u)
        | .ok _ => ∃ f : Failure, (rules σ i source).exec w = (.error f,u) ∧
            f.family? = some .ruleNotFound ∧
            f.context = [("rule",.text (String.ofList s.name))] ∧
            ∃ cs, Strand.ownChecks σ (w.node i).heading (w.value i)
                ((before ++ [pre]).headD []) = .ok cs ∧
              (u.node i).checks = (w.node i).checks ++ cs := by
  have hstep : ∃ a ∈ Expression.parse source.toList, ∃ s ∈ a, σ.knows s = false :=
    ⟨_,List.mem_map_of_mem hg,_,List.mem_map_of_mem hp,hu⟩
  obtain ⟨before,pre,s,hfirst⟩ := Setting.exists_firstUnknown hstep
  have hrules : ∀ f u, (applyAlternatives σ i (Expression.parse source.toList)).exec w =
      (.error f,u) → (rules σ i source).exec w = (.error f,u) :=
    fun f u hx => exec_bind_of_error hx _
  have hexec := exec_firstUnknown hfirst i w
  cases hx : (applyAlternatives σ i (before ++ [pre])).exec w with
  | mk r u =>
      rw [hx] at hexec
      cases r with
      | error f =>
          have hf := hrules f u hexec
          refine ⟨⟨f,by rw [hf]⟩,before,pre,s,hfirst,?_⟩
          rintro _ _ hr
          cases hx.symm.trans hr
          exact hf
      | ok j =>
          have hf := hrules _ u hexec
          refine ⟨⟨_,by rw [hf]⟩,before,pre,s,hfirst,?_⟩
          rintro _ _ hr
          cases hx.symm.trans hr
          refine ⟨_,hf,rfl,rfl,?_⟩
          cases before with
          | nil => exact alternatives_own_checks h hx
          | cons a more => exact alternatives_own_checks h hx

/-- A value that the first alternative has found valid already. -/
theorem unknown_rule_fails_late :
    let σ : Setting := ⟨Rules.standard .none,.standard,false⟩
    let w := ((seed (.int 5) (some "age") false).exec .empty).2
    w.Holds 0 ∧ ∃ f, ((rules σ 0 "int;gt,1|req; nope ,1").exec w).1 = .error f := by
  intro σ w
  have h : w.Holds 0 := ⟨by decide,nofun,by decide,by decide⟩
  have hg : "req; nope ,1".toList ∈ Expression.segments "int;gt,1|req; nope ,1".toList := by
    decide
  have hp : " nope ,1".toList ∈ split ';' "req; nope ,1".toList := by decide
  exact ⟨h,(unknown_rule_fails (σ := σ) hg hp rfl h).1⟩

end Run

end Vetting
