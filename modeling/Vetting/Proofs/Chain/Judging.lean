import Mathlib.Data.List.Perm.Basic
import Vetting.Proofs.Chain.Drawing
import Vetting.Proofs.Chain.Invocation
import Vetting.Proofs.Chain.Meaning
import Vetting.Proofs.Rules.Contract

/-!
# Rules that judge, in any order

A rule that judges adds a check to its node. Which check that is depends on the value, on what the
node is about and on the arguments, but on no check that is there already, so rules that are asked
one after the other add the same checks in any order. All that is asked of the chain afterwards
depends on the checks of its nodes as a whole and not on their order, apart from the order of the
errors.
-/
namespace Vetting
variable {mail : Rules.MailReader}

/-- A rule that is asked of a node, with its arguments. -/
structure Inquiry where
  name : String
  args : List Value
  byName : Named Value

/-- What a step with a name asks. -/
def Step.inquiry (σ : Setting) (s : Step) : Inquiry :=
  ⟨String.ofList s.name, Strand.passedOn (σ.registry.maxArguments (String.ofList s.name)) s, []⟩

/-- What the steps of an alternative ask, one after the other. -/
def Alternative.inquiries (σ : Setting) (a : Alternative) : List Inquiry :=
  (a.filter fun s => !s.isIdle).map (Step.inquiry σ)

namespace Inquiry

def run (σ : Setting) (i : Nat) (q : Inquiry) : Run Nat := Run.apply σ i q.name q.args q.byName

def runAll (σ : Setting) (i : Nat) (qs : List Inquiry) : Run Nat :=
  qs.foldlM (fun j q => q.run σ j) i

/-- The name is one of a standard rule that judges. -/
def Judges (mail : Rules.MailReader) (q : Inquiry) : Prop :=
  ∃ e ∈ Rules.validators mail, q.name ∈ e.1 :: e.2.1

/-- The ways of asking some rules: one application after the other, or an expression without
alternatives. -/
inductive Asks (σ : Setting) (i : Nat) : List Inquiry → Run Nat → Prop
  | applied (qs : List Inquiry) : Asks σ i qs (runAll σ i qs)
  | written {source : String} (h : (Expression.parse source.toList).length ≤ 1) :
      Asks σ i ((Expression.parse source.toList).flatMap (Alternative.inquiries σ))
        (Run.rules σ i source)

/-- A chain that has just been seeded with a value is valid after the rule has been asked of it. -/
def PassesAlone (σ : Setting) (w : World) (x : Value) (field : Option String) (sensitive : Bool)
    (q : Inquiry) : Prop :=
  ∃ k u, (do q.run σ (← Run.seed x field sensitive)).exec w = (.ok k,u) ∧ u.valid k = true

/-- The check that a rule answers with. Nothing but the value and the heading of the node goes
into it. -/
def Answers (σ : Setting) (h : Heading) (x : Value) (q : Inquiry) (c : Check) : Prop :=
  (q.byName.any fun a => Run.reservedNames.contains a.1) = false ∧
    ∃ r message rule fields, σ.registry.get? q.name = some r ∧
      r.call x q.args q.byName = .ok (.verdict c.hasPassed message rule fields) ∧
      h.judge σ x c.hasPassed message rule fields = .ok c

end Inquiry

/-- A check that a verdict becomes has passed if the verdict says so. -/
theorem Heading.hasPassed_of_judge {σ : Setting} {h : Heading} {x message : Value} {passed : Bool}
    {rule : String} {fields : Named Value} {c : Check}
    (hc : h.judge σ x passed message rule fields = .ok c) : c.hasPassed = passed := by
  cases passed with
  | true =>
      cases hc
      rfl
  | false =>
      obtain ⟨translated,-,hc⟩ := exists_of_bind hc
      split at hc
      · cases hc
        rfl
      · cases hc
        rfl
      · cases hc

namespace World
variable {w u u' : World} {i : Nat} {b b' : Strand}

/-- What goes on from a node stands over the ancestors of the node, as they were. -/
theorem Continues.strands_eq (hw : w.Sound) (hi : i < w.nodes.size) (h : w.Continues u i i b) :
    (u.lineage i).map u.strand = b :: (w.ancestors i).map w.strand := by
  obtain ⟨ns,hns,hb,-⟩ := (h.stacks (hw i hi)).lineage
  rw [hns,List.map_append,hb]
  refine congrArg (b :: ·) (List.map_congr_left fun n hn => ?_)
  refine strand_extend h.world (fun _ => id) (hw.value_lt_of_mem_lineage hi ?_)
  rw [lineage_eq_cons]
  exact List.mem_cons_of_mem _ hn

/-- A node with the checks that it had in an earlier world and some more, in each of two later
worlds. These are the same but for their order, so that the chain comes to the same in both. -/
structure JudgedAlike (w u u' : World) (i : Nat) (cs cs' : List Check) : Prop where
  checks : (u.node i).checks = (w.node i).checks ++ cs ∧
    (u'.node i).checks = (w.node i).checks ++ cs'
  perm : cs.Perm cs'
  value : u.value i = w.value i ∧ u'.value i = w.value i
  valid : u.valid i = u'.valid i
  get : u.get i = u'.get i
  errors : (u.errors i).Perm (u'.errors i)

theorem Continues.judgedAlike {cs cs' : List Check} (hw : w.Sound) (hi : i < w.nodes.size)
    (h : w.Continues u i i
      { w.strand (w.node i) with checks := (w.node i).checks ++ cs })
    (h' : w.Continues u' i i
      { w.strand (w.node i) with checks := (w.node i).checks ++ cs' })
    (hcs : cs.Perm cs') : w.JudgedAlike u u' i cs cs' := by
  have hs := h.strands_eq hw hi
  have hs' := h'.strands_eq hw hi
  have hchecks : ((w.node i).checks ++ cs).Perm ((w.node i).checks ++ cs') := hcs.append_left _
  have hclean : Strand.isClean { w.strand (w.node i) with checks := (w.node i).checks ++ cs } =
      Strand.isClean { w.strand (w.node i) with checks := (w.node i).checks ++ cs' } :=
    congrArg (!·) hchecks.any_eq
  have hvalid : u.valid i = u'.valid i := by
    rw [valid_eq,valid_eq,hs,hs',List.any_cons,List.any_cons,hclean]
  refine ⟨⟨congrArg Strand.checks h.strand,congrArg Strand.checks h'.strand⟩,hcs,
    ⟨congrArg Strand.value h.strand,congrArg Strand.value h'.strand⟩,hvalid,?_,?_⟩
  · rw [get_eq,get_eq,hs,hs',List.find?_cons,List.find?_cons,hclean]
    split <;> rfl
  · rw [errors_eq,errors_eq,hs,hs',hvalid]
    split
    · exact .refl _
    · exact (hchecks.filterMap _).append_right _

end World

namespace Inquiry
variable {σ : Setting} {w : World} {i : Nat} {q : Inquiry} {c : Check}

/-- A rule whose name and arguments are in order has its outcome drawn on the node. -/
theorem run_eq {r : Rule} {o : Outcome}
    (hopen : (q.byName.any fun a => Run.reservedNames.contains a.1) = false)
    (hr : σ.registry.get? q.name = some r)
    (ho : r.call (w.value i) q.args q.byName = .ok o) :
    (q.run σ i).exec w = (Run.conclude σ i o).exec w := by
  rw [run,Run.apply,Run.applyUnder,if_neg (by rw [hopen]; exact Bool.false_ne_true),hr]
  refine (Run.exec_bind_of_ok (Run.exec_get w) _).trans ?_
  rw [ho]
  rfl

/-- A rule that judges and does not stop the run has answered with a check. -/
theorem Judges.exists_answer (hreg : σ.registry = Rules.standard mail) (hq : q.Judges mail)
    (h : w.Holds i) {j : Nat} (hx : ((q.run σ i).exec w).1 = .ok j) :
    ∃ c, q.Answers σ (w.node i).heading (w.value i) c := by
  obtain ⟨e,he,hname⟩ := hq
  have hr : σ.registry.get? q.name = some e.2.2 :=
    hreg ▸ Rules.get?_of_entry (List.mem_append_right _ he) hname
  have hopen : (q.byName.any fun a => Run.reservedNames.contains a.1) = false := by
    rw [← Bool.not_eq_true]
    intro hreserved
    rw [run,Run.apply,Run.applyUnder,if_pos hreserved] at hx
    cases hx
  rcases Run.apply_cases hr i q.args q.byName w with ⟨⟨f,hf⟩,-⟩ | ⟨o,ho,hdraw⟩
  · cases hf.symm.trans hx
  · have hjudges := (Rules.validators_judge e he).call _ _ _ o ho
    cases o with
    | replaced v => exact hjudges.elim
    | verdict passed message rule fields =>
        have hconclude : (Run.conclude σ i (.verdict passed message rule fields)).exec w =
            (.ok j,((q.run σ i).exec w).2) := hdraw.symm.trans (Prod.ext hx rfl)
        obtain ⟨-,c,hc,-⟩ := Run.conclude_drawn h hconclude
        refine ⟨c,hopen,e.2.2,message,rule,fields,hr,?_⟩
        rw [Heading.hasPassed_of_judge hc]
        exact ⟨ho,hc⟩

/-- A rule adds the check that it answers with. -/
theorem Answers.run (hσ : σ.throwEarly = false) (h : w.Holds i)
    (ha : q.Answers σ (w.node i).heading (w.value i) c) :
    ∃ u, (q.run σ i).exec w = (.ok i,u) ∧
      w.Continues u i i { w.strand (w.node i) with checks := (w.node i).checks ++ [c] } := by
  obtain ⟨hopen,r,message,rule,fields,hr,hcall,hjudge⟩ := ha
  have hcheck : Run.Follows w (Run.check σ i c.hasPassed message rule fields)
      ((w.node i).heading.judge σ (w.value i) c.hasPassed message rule fields) _ :=
    Run.check_follows hσ
  rw [hjudge] at hcheck
  obtain ⟨_,u,hx,hn,hc,hcalls⟩ := hcheck
  refine ⟨u,?_,.addCheck h hn hc hcalls⟩
  rw [run_eq hopen hr hcall]
  exact Run.exec_bind_of_ok hx _

/-- Rules that are asked one after the other add their checks one after the other. -/
theorem runAll_of_answers (hσ : σ.throwEarly = false) {heading : Heading} {x : Value}
    {qs : List Inquiry} {cs : List Check} (ha : List.Forall₂ (Answers σ heading x) qs cs)
    (h : w.Holds i) (hheading : (w.node i).heading = heading) (hx : w.value i = x) :
    ∃ u, (runAll σ i qs).exec w = (.ok i,u) ∧
      w.Continues u i i { w.strand (w.node i) with checks := (w.node i).checks ++ cs } := by
  induction ha generalizing w with
  | nil =>
      refine ⟨w,rfl,?_⟩
      rw [List.append_nil]
      exact .refl h
  | @cons q c qs cs hq _ ih =>
      rw [← hheading,← hx] at hq
      obtain ⟨u,hu,hcont⟩ := hq.run hσ h
      have hvalue : u.value i = w.value i := congrArg Strand.value hcont.strand
      have hchecks : (u.node i).checks = (w.node i).checks ++ [c] :=
        congrArg Strand.checks hcont.strand
      obtain ⟨v,hv,hcont'⟩ := ih hcont.holds (hcont.heading.trans hheading) (hvalue.trans hx)
      refine ⟨v,?_,?_⟩
      · rw [runAll,List.foldlM_cons,Run.exec_bind_of_ok hu]
        exact hv
      · rw [hcont.strand,hchecks,List.append_assoc] at hcont'
        exact hcont.trans hcont'

/-! ## Expressions that judge -/

theorem runAll_blind (σ : Setting) (i : Nat) (qs : List Inquiry) : Run.Blind (runAll σ i qs) := by
  induction qs generalizing i with
  | nil => exact .pure i
  | cons q rest ih => exact .bind (Run.apply_blind σ i q.name q.args q.byName) ih

/-- The steps of an alternative do what the rules do that they ask. -/
theorem steps_same (σ : Setting) (i : Nat) (a : Alternative) :
    Run.Same (a.foldlM (Run.applyStep σ) i) (runAll σ i (a.inquiries σ)) := by
  induction a generalizing i with
  | nil => exact .of_eq (.pure i) rfl
  | cons s rest ih =>
      rw [List.foldlM_cons]
      cases hidle : s.isIdle with
      | true =>
          have hrest : Alternative.inquiries σ (s :: rest) = Alternative.inquiries σ rest := by
            simp [Alternative.inquiries,hidle]
          have hstep : Run.applyStep σ i s = pure i := by
            rw [Run.applyStep,if_pos hidle]
          rw [hrest,hstep,pure_bind]
          exact ih i
      | false =>
          have hrest : Alternative.inquiries σ (s :: rest) =
              s.inquiry σ :: Alternative.inquiries σ rest := by
            simp [Alternative.inquiries,hidle]
          rw [hrest]
          exact .bind (Run.applyStep_same σ i hidle) ih fun j => runAll_blind σ j _

theorem Asks.same {qs : List Inquiry} {x : Run Nat} (h : Asks σ i qs x) :
    Run.Same x (runAll σ i qs) := by
  cases h with
  | applied => exact .of_eq (runAll_blind σ i qs) rfl
  | @written source hgroup =>
      refine (Run.rules_same σ i source).trans ?_
      rcases hparse : Expression.parse source.toList with _ | ⟨a,_ | _⟩
      · exact .of_eq (.pure i) rfl
      · have hsingle : Run.applyAlternatives σ i [a] = a.foldlM (Run.applyStep σ) i :=
          bind_pure _
        rw [hsingle,List.flatMap_singleton]
        exact steps_same σ i a
      · rw [hparse] at hgroup
        exact absurd hgroup (by simp)

/-- However rules are asked, they leave the checks that they answer with, and nothing else. -/
theorem Asks.leaves (hσ : σ.throwEarly = false) (h : w.Holds i) {qs : List Inquiry}
    {cs : List Check} {x : Run Nat} (hx : Asks σ i qs x)
    (ha : List.Forall₂ (Answers σ (w.node i).heading (w.value i)) qs cs) :
    ∃ u, x.exec w = (.ok i,u) ∧
      w.Continues u i i { w.strand (w.node i) with checks := (w.node i).checks ++ cs } := by
  obtain ⟨v,hv,hcont⟩ := runAll_of_answers hσ ha h rfl rfl
  obtain ⟨hresult,rs,hworld⟩ := hx.same w
  rw [hv] at hresult hworld
  subst hworld
  have hsame := World.Continues.of_eq (u := (x.exec w).2) hcont.holds rfl rfl List.prefix_rfl
  rw [hcont.strand] at hsame
  exact ⟨(x.exec w).2,Prod.ext hresult rfl,hcont.trans hsame⟩

/-! ## Rules asked alone -/

/-- A rule passes alone exactly if the check that it answers with, on whatever node, has
passed. -/
theorem Answers.hasPassed_iff (hσ : σ.throwEarly = false) {heading : Heading} {x : Value}
    (ha : q.Answers σ heading x c) (v : World) (field : Option String) (sensitive : Bool) :
    c.hasPassed = true ↔ q.PassesAlone σ v x field sensitive := by
  obtain ⟨hopen,r,message,rule,fields,hr,hcall,hjudge⟩ := ha
  obtain ⟨u,hseed,-⟩ := Run.exec_seed x field sensitive v
  obtain ⟨hfresh,hroot⟩ := Run.seed_fresh hseed
  have hvalue : u.value v.nodes.size = x := congrArg Strand.value hfresh.strand
  have hbare : (u.node v.nodes.size).checks = [] := congrArg Strand.checks hfresh.strand
  -- The chain has no parent, so it is valid exactly if its only check has passed.
  have hvalid : ∀ {u' c'}, u.Continues u' v.nodes.size v.nodes.size
      { u.strand (u.node v.nodes.size) with
        checks := (u.node v.nodes.size).checks ++ [c'] } →
      u'.valid v.nodes.size = c'.hasPassed := by
    intro u' c' hcont
    have hchecks : (u'.node v.nodes.size).checks = (u.node v.nodes.size).checks ++ [c'] :=
      congrArg Strand.checks hcont.strand
    rw [hbare,List.nil_append] at hchecks
    rw [World.valid,World.lineage_of_root (hcont.parent.trans hroot)]
    simp [Node.isClean,Node.hasErrors,hchecks]
  constructor
  · intro hpassed
    have hanswer : q.Answers σ (u.node v.nodes.size).heading (u.value v.nodes.size) c := by
      rw [hvalue]
      refine ⟨hopen,r,message,rule,fields,hr,hcall,?_⟩
      rw [hpassed] at hjudge ⊢
      exact hjudge
    obtain ⟨u',hx,hcont⟩ := hanswer.run hσ hfresh.holds
    exact ⟨_,u',(Run.exec_bind_of_ok hseed _).trans hx,(hvalid hcont).trans hpassed⟩
  · rintro ⟨k,u',hx,hclean⟩
    rw [Run.exec_bind_of_ok hseed,run_eq hopen hr (hvalue.symm ▸ hcall)] at hx
    obtain ⟨rfl,c',hc',hcont⟩ := Run.conclude_drawn hfresh.holds hx
    rw [← Heading.hasPassed_of_judge hc',← hvalid hcont]
    exact hclean

theorem exists_answers {heading : Heading} {x : Value} {qs : List Inquiry}
    (h : ∀ q ∈ qs, ∃ c, q.Answers σ heading x c) :
    ∃ cs, List.Forall₂ (Answers σ heading x) qs cs := by
  induction qs with
  | nil => exact ⟨[],.nil⟩
  | cons q rest ih =>
      obtain ⟨⟨c,hc⟩,hrest⟩ := List.forall_mem_cons.mp h
      obtain ⟨cs,hcs⟩ := ih hrest
      exact ⟨c :: cs,.cons hc hcs⟩

theorem forall_hasPassed_iff (hσ : σ.throwEarly = false) {heading : Heading} {x : Value}
    {qs : List Inquiry} {cs : List Check} (h : List.Forall₂ (Answers σ heading x) qs cs)
    (v : World) (field : Option String) (sensitive : Bool) :
    (∀ c ∈ cs, c.hasPassed = true) ↔ ∀ q ∈ qs, q.PassesAlone σ v x field sensitive := by
  induction h with
  | nil => exact iff_of_true nofun nofun
  | cons hc _ ih =>
      rw [List.forall_mem_cons,List.forall_mem_cons,ih,hc.hasPassed_iff hσ v field sensitive]

end Inquiry

/-- Rules that judge commute. Asked of a node one after the other, none of them being refused,
they leave the same value, the same answers about the chain and the same new checks in any order
and by any of the ways of asking; and these checks have all passed exactly if each of the rules
passes alone. -/
theorem judgements_commute {σ : Setting} (hreg : σ.registry = Rules.standard mail)
    (hσ : σ.throwEarly = false) {w : World} (hw : w.Sound) {i : Nat} (hi : i < w.nodes.size)
    {qs : List Inquiry} (hq : ∀ q ∈ qs, q.Judges mail)
    (hok : ∀ q ∈ qs, ∃ j, ((q.run σ i).exec w).1 = .ok j) {order order' : List Inquiry}
    (ho : order.Perm qs) (ho' : order'.Perm qs) {x y : Run Nat} (hx : Inquiry.Asks σ i order x)
    (hy : Inquiry.Asks σ i order' y) :
    ∃ u u' cs cs', x.exec w = (.ok i,u) ∧ y.exec w = (.ok i,u') ∧
      w.JudgedAlike u u' i cs cs' ∧
      ∀ v field sensitive, (∀ c ∈ cs, c.hasPassed = true) ↔
        ∀ q ∈ qs, q.PassesAlone σ v (w.value i) field sensitive := by
  have hanswer : ∀ q ∈ qs, ∃ c, q.Answers σ (w.node i).heading (w.value i) c := by
    intro q hmem
    obtain ⟨j,hj⟩ := hok q hmem
    exact (hq q hmem).exists_answer hreg (hw i hi) hj
  obtain ⟨all,hall⟩ := Inquiry.exists_answers hanswer
  obtain ⟨cs,hcs,hperm⟩ := List.perm_comp_forall₂ ho hall
  obtain ⟨cs',hcs',hperm'⟩ := List.perm_comp_forall₂ ho' hall
  obtain ⟨u,hu,hcont⟩ := hx.leaves hσ (hw i hi) hcs
  obtain ⟨u',hu',hcont'⟩ := hy.leaves hσ (hw i hi) hcs'
  refine ⟨u,u',cs,cs',hu,hu',hcont.judgedAlike hw hi hcont' (hperm.trans hperm'.symm),?_⟩
  intro v field sensitive
  rw [← Inquiry.forall_hasPassed_iff hσ hall v field sensitive]
  simp only [hperm.mem_iff]

/-- A comparison and a test of kind on an alternative to a chain that has failed, as an expression
and one by one in the other order. -/
theorem judgements_commute_age :
    let σ : Setting := ⟨Rules.standard .none,.silent,false⟩
    let seeded := ((Run.seed (.int 5) (some "age") false).exec .empty).2
    let first := (((Operation.check (.bool false) .null "adult" []).run σ 0).exec seeded).2
    let w := ((Operation.fork.run σ 0).exec first).2
    let qs : List Inquiry := [⟨"gt",[.text "7"],[]⟩,⟨"int",[],[]⟩]
    (∀ q ∈ qs, q.Judges .none ∧ ∃ j, ((q.run σ 1).exec w).1 = .ok j) ∧
      ∃ u u' cs cs', (Run.rules σ 1 "gt,7;int").exec w = (.ok 1,u) ∧
        (Inquiry.runAll σ 1 qs.reverse).exec w = (.ok 1,u') ∧ w.JudgedAlike u u' 1 cs cs' ∧
        ((∀ c ∈ cs, c.hasPassed = true) ↔
          ∀ q ∈ qs, q.PassesAlone σ .empty (.int 5) none false) := by
  intro σ seeded first w qs
  have hw : Later σ .empty w :=
    .operate _ (.operate _ (.seed _ _ _ .refl) (by decide)) (by decide)
  have hsound : w.Sound := (hw.extends_sound World.sound_empty).2
  have hi : 1 < w.nodes.size := by decide
  have hq : ∀ q ∈ qs, q.Judges .none := by
    simp only [qs,List.forall_mem_cons]
    exact ⟨⟨("gt",[],Rules.gt),by simp [Rules.validators],by simp⟩,
      ⟨("integer",["int"],Rules.integer),by simp [Rules.validators],by simp⟩,
      List.forall_mem_nil _⟩
  have hok : ∀ q ∈ qs, ∃ j, ((q.run σ 1).exec w).1 = .ok j := by
    simp only [qs,List.forall_mem_cons]
    exact ⟨⟨1,rfl⟩,⟨1,rfl⟩,List.forall_mem_nil _⟩
  have hgroup : (Expression.parse "gt,7;int".toList).length ≤ 1 := by decide
  have hx : Inquiry.Asks σ 1 qs (Run.rules σ 1 "gt,7;int") := .written hgroup
  obtain ⟨u,u',cs,cs',hu,hu',halike,hpassed⟩ := judgements_commute rfl rfl hsound hi hq hok
    (.refl qs) qs.reverse_perm hx (.applied qs.reverse)
  exact ⟨fun q hmem => ⟨hq q hmem,hok q hmem⟩,u,u',cs,cs',hu,hu',halike,
    hpassed .empty none false⟩

end Vetting
