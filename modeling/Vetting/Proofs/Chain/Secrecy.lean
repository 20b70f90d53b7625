import Vetting.Proofs.Chain.History
import Vetting.Proofs.Chain.Parallel
import Vetting.Proofs.Chain.Strand
import Vetting.Proofs.Rules.Discreet

/-!
# What a sensitive value lets be seen

Two chains are seeded as sensitive with different values, and the same program of steps is
run on both. If the checks and the new values succeed alike, then all that can be seen is
the same: messages, the messages asked for with their contexts, errors, descriptions, and
the failures of steps. The worlds of the two runs are twins, which means that they differ
in what their cells hold, and the comparison is carried from step to step.

What succeeds is told by the rules alone, apart from the worlds that they leave.
-/
namespace Vetting
variable {mail : Rules.MailReader}

namespace World
variable {w u : World} {i : Nat}

/-- Worlds that differ in what their cells hold at most. All their nodes are sensitive. -/
structure Twins (w u : World) : Prop where
  cells : ∃ cs : Array Value, cs.size = w.cells.size ∧ u = { w with cells := cs }
  sensitive : ∀ i < w.nodes.size, (w.node i).sensitive = true

namespace Twins

theorem nodes (h : w.Twins u) : u.nodes = w.nodes := by
  obtain ⟨cs,-,rfl⟩ := h.cells
  rfl

theorem calls (h : w.Twins u) : u.calls = w.calls := by
  obtain ⟨cs,-,rfl⟩ := h.cells
  rfl

theorem records (h : w.Twins u) : u.records = w.records := by
  obtain ⟨cs,-,rfl⟩ := h.cells
  rfl

theorem node (h : w.Twins u) (i : Nat) : u.node i = w.node i :=
  node_eq_of_nodes_eq h.nodes i

theorem lineage (h : w.Twins u) (i : Nat) : u.lineage i = w.lineage i :=
  lineage_congr fun j _ => h.node j

theorem valid (h : w.Twins u) (i : Nat) : u.valid i = w.valid i := by
  rw [World.valid,World.valid,h.lineage]

theorem errors (h : w.Twins u) (i : Nat) : u.errors i = w.errors i := by
  rw [World.errors,World.errors,h.lineage,h.valid]

end Twins

end World

namespace Run
variable {α β : Type} {σ : Setting} {w u v : World} {i : Nat}

/-- A run that does not run into a fault. -/
def Faultless (x : Run α) (w : World) : Prop := ∀ f, (x.exec w).1 ≠ .error (.fault f)

namespace Faultless

theorem of_bind {x : Run α} {f : α → Run β} (h : Faultless (x >>= f) w) : Faultless x w := by
  intro g hg
  refine h g ?_
  rw [exec_bind_of_error (Prod.ext hg rfl)]

theorem after {x : Run α} {f : α → Run β} {a : α} (h : Faultless (x >>= f) w)
    (hx : x.exec w = (.ok a,u)) : Faultless (f a) u := by
  intro g hg
  refine h g ?_
  rw [exec_bind_of_ok hx]
  exact hg

end Faultless

/-! ## What succeeds -/

/-- Whether the rule of a name succeeds on a node, if it is run and says so. -/
def ruleSuccess (σ : Setting) (i : Nat) (name : String) (args : List Value)
    (byName : Named Value) (w : World) : Option Bool :=
  if byName.any fun a => reservedNames.contains a.1 then none
  else (σ.registry.get? name).bind fun r => success? (r.call (w.value i) args byName)

def stepSuccess (σ : Setting) (i : Nat) (s : Step) (w : World) : Option Bool :=
  let name := String.ofList s.name
  if s.isIdle then none
  else ruleSuccess σ i name (Strand.passedOn (σ.registry.maxArguments name) s) [] w

/-- One entry for each step, up to the first one that fails to leave a node. -/
def stepsSuccess (σ : Setting) : Nat → List Step → World → List (Option Bool)
  | _,[],_ => []
  | i,s :: rest,w => stepSuccess σ i s w ::
      match (applyStep σ i s).exec w with
      | (.ok j,u) => stepsSuccess σ j rest u
      | (.error _,_) => []

def alternativesSuccess (σ : Setting) :
    Nat → List Alternative → World → List (List (Option Bool))
  | _,[],_ => []
  | i,a :: rest,w => stepsSuccess σ i a w ::
      match (a.foldlM (applyStep σ) i >>= fork).exec w with
      | (.ok k,u) => alternativesSuccess σ k rest u
      | (.error _,_) => []

end Run

namespace Operation

/-- What succeeds in an operation, alternative by alternative and step by step. -/
def successes (σ : Setting) (i : Nat) (w : World) : Operation → List (List (Option Bool))
  | .apply name args byName => [[Run.ruleSuccess σ i name args byName w]]
  | .invoke name args byName =>
      if name.startsWith "_" then [] else [[Run.ruleSuccess σ i name args byName w]]
  | .rules source => Run.alternativesSuccess σ i (Expression.parse source.toList) w
  | .check condition _ _ _ => [[some condition.truth]]
  | _ => []

/-- The same step of two programs. Conditions of checks may be found out from the values,
so that they need not be the same; copies and the rules for fields are no steps. -/
inductive Corresponds : Operation → Operation → Prop
  | apply (name : String) (args : List Value) (byName : Named Value) :
      Corresponds (.apply name args byName) (.apply name args byName)
  | invoke (name : String) (args : List Value) (byName : Named Value) :
      Corresponds (.invoke name args byName) (.invoke name args byName)
  | rules (source : String) : Corresponds (.rules source) (.rules source)
  | fork : Corresponds .fork .fork
  | check (condition other message : Value) (rule : String) (fields : Named Value) :
      Corresponds (.check condition message rule fields) (.check other message rule fields)
  | validate : Corresponds .validate .validate
  | describe : Corresponds .describe .describe

end Operation

/-! ## Twins stay twins -/

namespace Run
variable {α β : Type} {σ : Setting} {w u v : World} {i : Nat}

theorem log_twins (l : Level) (m : String) (h : w.Twins u) :
    Parallel World.Twins w u (log l m) (log l m) := by
  obtain ⟨cs,hcs,rfl⟩ := h.cells
  exact .of_exec (exec_log l m _) (exec_log l m _) ⟨⟨cs,hcs,rfl⟩,h.sensitive⟩

theorem translate_twins (key : Value) (context : Named Value) (h : w.Twins u) :
    Parallel World.Twins w u (translate σ key context) (translate σ key context) := by
  obtain ⟨cs,hcs,rfl⟩ := h.cells
  exact .of_exec (exec_translate σ key context _) (exec_translate σ key context _)
    ⟨⟨cs,hcs,rfl⟩,h.sensitive⟩

theorem addCheck_twins (i : Nat) (c : Check) (h : w.Twins u) :
    Parallel World.Twins w u (addCheck i c) (addCheck i c) := by
  have hsensitive : ∀ j < (w.addCheck i c).nodes.size,
      ((w.addCheck i c).node j).sensitive = true := by
    intro j hj
    rw [World.size_addCheck] at hj
    by_cases hji : j = i
    · rw [← hji,World.node_addCheck_self hj]
      exact h.sensitive j hj
    · rw [World.node_addCheck_of_ne hji]
      exact h.sensitive j hj
  obtain ⟨cs,hcs,rfl⟩ := h.cells
  exact .of_exec (exec_addCheck i c _) (exec_addCheck i c _) ⟨⟨cs,hcs,rfl⟩,hsensitive⟩

theorem addNode_twins {n : Node} (hn : n.sensitive = true) (h : w.Twins u) :
    Parallel World.Twins w u (addNode n) (addNode n) := by
  have hsensitive : ∀ j < (w.nodes.push n).size,
      (World.node { w with nodes := w.nodes.push n } j).sensitive = true := by
    intro j hj
    rw [World.node_push rfl]
    split
    · exact hn
    · rw [Array.size_push] at hj
      exact h.sensitive j (by omega)
  obtain ⟨cs,hcs,rfl⟩ := h.cells
  exact .of_exec (exec_addNode n _) (exec_addNode n _) ⟨⟨cs,hcs,rfl⟩,hsensitive⟩

/-- This is where the worlds come to differ: values of their own go into cells of the same
place. -/
theorem store_twins (a b : Value) (h : w.Twins u) :
    Parallel World.Twins w u (store a) (store b) := by
  obtain ⟨cs,hcs,rfl⟩ := h.cells
  have hy := exec_store b { w with cells := cs }
  rw [hcs] at hy
  exact .of_exec (exec_store a w) hy ⟨⟨cs.push b,by simp [hcs],rfl⟩,h.sensitive⟩

theorem check_twins (passed : Bool) (message : Value) (rule : String) (fields : Named Value)
    (h : w.Twins u) (hi : i < w.nodes.size) :
    Parallel World.Twins w u (check σ i passed message rule fields)
      (check σ i passed message rule fields) := by
  have hfail : ∀ {x y : World} (n : Node) (s : String), x.Twins y →
      Parallel World.Twins x y (check.fail σ i rule n s) (check.fail σ i rule n s) := by
    intro x y n s hxy
    unfold check.fail
    split
    · exact .throw _ hxy
    · exact addCheck_twins i _ hxy
  unfold check
  split
  · exact addCheck_twins i _ h
  · have hc : checkContext u (w.node i) rule = checkContext w (w.node i) rule := by
      rw [checkContext,checkContext,h.sensitive i hi]
      rfl
    refine .get_bind ?_
    dsimp only
    rw [h.node i,hc]
    refine .bind (translate_twins _ _ h) ?_
    intro translated x y _ _ hxy
    split
    · exact hfail _ _ hxy
    · exact hfail _ _ hxy
    · exact .throw _ hxy

theorem derive_twins (a b : Value) (h : w.Twins u) (hi : i < w.nodes.size) :
    Parallel World.Twins w u (derive i a) (derive i b) := by
  refine .bind (store_twins a b h) ?_
  intro c x y hx _ hxy
  have hn : x.node i = w.node i := by
    cases hx
    rfl
  refine .nodeAt_bind ?_
  rw [hxy.node i,hn]
  exact addNode_twins (h.sensitive i hi) hxy

theorem fork_twins (h : w.Twins u) (hi : i < w.nodes.size) :
    Parallel World.Twins w u (fork i) (fork i) := by
  refine .nodeAt_bind ?_
  rw [h.node i]
  exact addNode_twins (h.sensitive i hi) h

theorem apply_twins (hσ : σ.registry.Discreet) {name : String} {args : List Value}
    {byName : Named Value} (h : w.Twins u) (hi : i < w.nodes.size)
    (hw : Faultless (apply σ i name args byName) w)
    (hu : Faultless (apply σ i name args byName) u)
    (hs : ruleSuccess σ i name args byName w = ruleSuccess σ i name args byName u) :
    Parallel World.Twins w u (apply σ i name args byName) (apply σ i name args byName) := by
  unfold apply applyUnder at hw hu ⊢
  unfold ruleSuccess at hs
  split at hs
  · rename_i hb
    rw [if_pos hb]
    exact .throw _ h
  · rename_i hb
    rw [if_neg hb] at hw hu ⊢
    cases hr : σ.registry.get? name with
    | none => exact .throw _ h
    | some r =>
        rw [hr] at hw hu hs
        have hfaultless : ∀ x : World, Faultless (do conclude σ i (← ofExcept
            (r.call ((← get).value i) args byName)) : Run Nat) x →
            ∀ g, r.call (x.value i) args byName ≠ .error (.fault g) := by
          intro x hx g hg
          refine hx g ?_
          rw [exec_bind_of_ok (exec_get x),hg]
          rfl
        refine .get_bind ?_
        rcases ((hσ name r hr).call args byName).compare (hfaultless w hw) (hfaultless u hu) hs
          with he | ⟨a,b,ha,hb⟩
        · rw [← he]
          refine .bind (.ofExcept _ h) ?_
          intro o x y hx _ hxy
          obtain ⟨-,rfl⟩ := Prod.mk.inj ((exec_ofExcept _ w).symm.trans hx)
          cases o with
          | verdict passed message rule fields =>
              exact .bind (check_twins passed message rule fields hxy hi)
                fun _ _ _ _ _ hz => .pure _ hz
          | replaced a => exact derive_twins a a hxy hi
        · rw [ha,hb]
          exact .of_bind (exec_ofExcept _ w) (exec_ofExcept _ u) (derive_twins a b h hi)

theorem stepArguments_twins (name : String) (args : List Value) (h : w.Twins u) :
    Parallel World.Twins w u (stepArguments σ name args) (stepArguments σ name args) := by
  unfold stepArguments
  split
  · exact .pure _ h
  · split
    · exact .bind (log_twins _ _ h) fun _ _ _ _ _ hz => .pure _ hz
    · exact .pure _ h

/-- Records do not count for a rule. -/
theorem ruleSuccess_congr {name : String} {args : List Value} {byName : Named Value}
    (hn : v.nodes = w.nodes) (hc : v.cells = w.cells) :
    ruleSuccess σ i name args byName v = ruleSuccess σ i name args byName w := by
  have hv : v.value i = w.value i := by
    rw [World.value,World.value,World.node_eq_of_nodes_eq hn,World.cell_eq_of_cells_eq hc]
  rw [ruleSuccess,ruleSuccess,hv]

theorem applyStep_twins (hσ : σ.registry.Discreet) {s : Step} (h : w.Twins u)
    (hi : i < w.nodes.size) (hw : Faultless (applyStep σ i s) w)
    (hu : Faultless (applyStep σ i s) u) (hs : stepSuccess σ i s w = stepSuccess σ i s u) :
    Parallel World.Twins w u (applyStep σ i s) (applyStep σ i s) := by
  unfold applyStep at hw hu ⊢
  unfold stepSuccess at hs
  split at hs
  · rename_i hidle
    rw [if_pos hidle]
    exact .pure i h
  · rename_i hidle
    rw [if_neg hidle] at hw hu ⊢
    refine .bind (stepArguments_twins _ _ h) ?_
    intro as x y hx hy hxy
    obtain ⟨x',hx',hnx,hcx,-⟩ := exec_stepArguments σ w (String.ofList s.name) s
    obtain ⟨y',hy',hny,hcy,-⟩ := exec_stepArguments σ u (String.ofList s.name) s
    obtain ⟨hargs,rfl⟩ := Prod.mk.inj (hx.symm.trans hx')
    obtain ⟨-,rfl⟩ := Prod.mk.inj (hy.symm.trans hy')
    cases hargs
    refine apply_twins hσ hxy (hnx ▸ hi) (hw.after hx) (hu.after hy) ?_
    rw [ruleSuccess_congr hnx hcx,ruleSuccess_congr hny hcy]
    exact hs

/-- The induction is on the steps. What is known to succeed alike goes with the worlds
that the first step leaves. -/
theorem steps_twins (hσ : σ.registry.Discreet) {steps : List Step} (h : w.Twins u)
    (hi : w.Holds i) (hw : Faultless (steps.foldlM (applyStep σ) i) w)
    (hu : Faultless (steps.foldlM (applyStep σ) i) u)
    (hs : stepsSuccess σ i steps w = stepsSuccess σ i steps u) :
    Parallel World.Twins w u (steps.foldlM (applyStep σ) i)
      (steps.foldlM (applyStep σ) i) := by
  induction steps generalizing i w u with
  | nil => exact .pure i h
  | cons s rest ih =>
      rw [List.foldlM_cons] at hw hu ⊢
      obtain ⟨hhead,htail⟩ := List.cons.inj hs
      refine .bind (applyStep_twins hσ h hi.lt hw.of_bind hu.of_bind hhead) ?_
      intro j x y hx hy hxy
      rw [hx,hy] at htail
      have hj := ((applyStep_steady (Scope.openFrom_all _) trivial hi).of_ok hx).2.2
      exact ih hxy hj (hw.after hx) (hu.after hy) htail

theorem applyAlternatives_twins (hσ : σ.registry.Discreet) {as : List Alternative}
    (h : w.Twins u) (hi : w.Holds i) (hw : Faultless (applyAlternatives σ i as) w)
    (hu : Faultless (applyAlternatives σ i as) u)
    (hs : alternativesSuccess σ i as w = alternativesSuccess σ i as u) :
    Parallel World.Twins w u (applyAlternatives σ i as) (applyAlternatives σ i as) := by
  induction as generalizing i w u with
  | nil => exact .pure i h
  | cons a rest ih =>
      obtain ⟨hhead,htail⟩ := List.cons.inj hs
      unfold applyAlternatives at hw hu ⊢
      refine .bind (steps_twins hσ h hi hw.of_bind hu.of_bind hhead) ?_
      intro j x y hx hy hxy
      have hj := ((steps_steady (Scope.openFrom_all _) trivial hi).of_ok hx).2.2
      have hwx := hw.after hx
      have huy := hu.after hy
      rw [exec_bind_of_ok hx,exec_bind_of_ok hy] at htail
      cases rest with
      | nil => exact .pure j hxy
      | cons b more =>
          refine .bind (fork_twins hxy hj.lt) ?_
          intro k x' y' hx' hy' hxy'
          rw [hx',hy'] at htail
          have hk := ((fork_steady (Scope.openFrom_all _) hj).of_ok hx').2.2
          exact ih hxy' hk (hwx.after hx') (huy.after hy') htail

theorem rules_twins (hσ : σ.registry.Discreet) {source : String} (h : w.Twins u)
    (hi : w.Holds i) (hw : Faultless (rules σ i source) w)
    (hu : Faultless (rules σ i source) u)
    (hs : alternativesSuccess σ i (Expression.parse source.toList) w =
      alternativesSuccess σ i (Expression.parse source.toList) u) :
    Parallel World.Twins w u (rules σ i source) (rules σ i source) := by
  refine .bind (applyAlternatives_twins hσ h hi hw.of_bind hu.of_bind hs) ?_
  intro j x y _ _ hxy
  refine .get_bind ?_
  rw [hxy.node j,hxy.valid j]
  exact .bind (log_twins _ _ hxy) fun _ _ _ _ _ hz => .pure j hz

theorem validate_twins (h : w.Twins u) :
    Parallel World.Twins w u (validate σ i) (validate σ i) := by
  refine .get_bind ?_
  rw [h.valid i,h.errors i,h.node i]
  split
  · exact .pure i h
  · refine .bind (translate_twins _ _ h) ?_
    intro translated x y _ _ hxy
    exact .bind (log_twins _ _ hxy) fun _ _ _ _ _ hz => .throw _ hz

/-- A sensitive value is not looked at. -/
theorem describe_twins (h : w.Twins u) (hi : i < w.nodes.size) :
    Parallel World.Twins w u (describe i) (describe i) := by
  refine .get_bind ?_
  rw [h.valid i,h.node i]
  dsimp only
  rw [if_pos (h.sensitive i hi),if_pos (h.sensitive i hi)]
  refine .bind (.pure _ h) fun _ _ _ _ _ hxy => ?_
  exact .bind (.ofExcept _ hxy) fun _ _ _ _ _ hz => .pure _ hz

end Run

namespace Operation
variable {σ : Setting} {w u : World} {i : Nat}

theorem Corresponds.twins (hσ : σ.registry.Discreet) {op other : Operation}
    (hop : op.Corresponds other) (h : w.Twins u) (hi : w.Holds i)
    (hw : Run.Faultless (op.run σ i) w) (hu : Run.Faultless (other.run σ i) u)
    (hs : op.successes σ i w = other.successes σ i u) :
    Run.Parallel World.Twins w u (op.run σ i) (other.run σ i) := by
  cases hop with
  | apply name args byName =>
      refine Run.apply_twins hσ h hi.lt hw hu ?_
      simpa [successes] using hs
  | invoke name args byName =>
      change Run.Faultless (Run.invoke σ i name args byName) w at hw
      change Run.Faultless (Run.invoke σ i name args byName) u at hu
      change Run.Parallel World.Twins w u (Run.invoke σ i name args byName)
        (Run.invoke σ i name args byName)
      unfold Run.invoke at hw hu ⊢
      split
      · exact .throw _ h
      · rename_i hname
        rw [if_neg hname] at hw hu
        refine Run.apply_twins hσ h hi.lt hw hu ?_
        have hprivate : ¬ name.startsWith "_" = true := by
          intro hp
          exact hname (by rw [hp,Bool.true_or])
        simpa [successes,hprivate] using hs
  | rules source => exact Run.rules_twins hσ h hi hw hu hs
  | fork => exact Run.fork_twins h hi.lt
  | check condition other message rule fields =>
      have hc : condition.truth = other.truth := by simpa [successes] using hs
      refine .bind ?_ fun _ _ _ _ _ hz => .pure i hz
      rw [← hc]
      exact Run.check_twins _ message rule fields h hi.lt
  | validate => exact Run.validate_twins h
  | describe =>
      refine .bind ?_ fun _ _ _ _ _ hz => .pure i hz
      exact .bind (Run.describe_twins h hi.lt) fun _ _ _ _ _ hz => .pure _ hz

end Operation

/-! ## Programs -/

/-- A step of a program that has been taken: what succeeded in it, what came out of it,
and the world that it left. -/
structure Stage where
  successes : List (List (Option Bool))
  result : Except Failure Nat
  world : World

/-- The stages of a program, which goes on after a failed step. There are no steps on
nodes that have not been made. -/
def stages (σ : Setting) : World → List (Nat × Operation) → List Stage
  | _,[] => []
  | w,(i,op) :: rest =>
      if i < w.nodes.size then
        ⟨op.successes σ i w,((op.run σ i).exec w).1,((op.run σ i).exec w).2⟩ ::
          stages σ ((op.run σ i).exec w).2 rest
      else stages σ w rest

/-- Worlds in which the same can be seen: the nodes with their messages, the messages that
were asked for with their contexts, the records, the errors, and how nodes are described. -/
structure World.SameView (w u : World) : Prop where
  nodes : u.nodes = w.nodes
  calls : u.calls = w.calls
  records : u.records = w.records
  errors : ∀ i, u.errors i = w.errors i
  described : ∀ i < w.nodes.size, ((Run.describe i).exec u).1 = ((Run.describe i).exec w).1

theorem World.Twins.sameView {w u : World} (h : w.Twins u) : w.SameView u where
  nodes := h.nodes
  calls := h.calls
  records := h.records
  errors := h.errors
  described _ hi := (Run.describe_twins h hi).result.symm

namespace Stage

def faulted (s : Stage) : Bool :=
  match s.result with
  | .error (.fault _) => true
  | _ => false

/-- Stages that come to the same, messages of failures included, and look the same after. -/
structure SameView (s s' : Stage) : Prop where
  result : s'.result = s.result
  world : s.world.SameView s'.world

end Stage

section
variable {σ : Setting} {w u : World}

/-- The induction is on the two programs; twins come out of each step as twins again. -/
theorem stages_sameView (hσ : σ.registry.Discreet) {p q : List (Nat × Operation)}
    (hpq : List.Forall₂ (fun a b => a.1 = b.1 ∧ a.2.Corresponds b.2) p q)
    (h : w.Twins u) (hw : w.Sound)
    (hs : (stages σ w p).map Stage.successes = (stages σ u q).map Stage.successes)
    (hp : ∀ s ∈ stages σ w p, s.faulted = false)
    (hq : ∀ s ∈ stages σ u q, s.faulted = false) :
    List.Forall₂ Stage.SameView (stages σ w p) (stages σ u q) := by
  induction hpq generalizing w u with
  | nil => exact .nil
  | @cons a b p q hab _ ih =>
      obtain ⟨i,op⟩ := a
      obtain ⟨j,other⟩ := b
      obtain ⟨rfl,hop⟩ := hab
      simp only [stages,h.nodes] at hs hp hq ⊢
      by_cases hi : i < w.nodes.size
      · simp only [if_pos hi,List.map_cons,List.cons.injEq,List.forall_mem_cons]
          at hs hp hq ⊢
        have hfaultless : ∀ {x : Run Nat} {v : World},
            Stage.faulted ⟨[],(x.exec v).1,(x.exec v).2⟩ = false → x.Faultless v := by
          intro x v hx f hf
          simp [Stage.faulted,hf] at hx
        have hstep := hop.twins hσ h (hw i hi) (hfaultless hp.1) (hfaultless hq.1) hs.1
        have hsound := hw.extend (op.run_steady (σ := σ) (hw i hi)).world
        exact .cons ⟨hstep.result.symm,hstep.world.sameView⟩
          (ih hstep.world hsound hs.2 hp.2 hq.2)
      · simp only [if_neg hi] at hs hp hq ⊢
        exact ih h hw hs hp hq

/-- A world with nothing but a sensitive chain. -/
def confidence (field : Option String) (v : Value) : World :=
  ((Run.seed v field true).exec .empty).2

theorem twins_confidence (field : Option String) (v₁ v₂ : Value) :
    (confidence field v₁).Twins (confidence field v₂) := by
  refine ⟨⟨#[v₂],rfl,rfl⟩,?_⟩
  intro i hi
  have hi : i = 0 := Nat.lt_one_iff.mp hi
  subst hi
  rfl

end

/-- Two sensitive chains with different values, on which the same program is run: if the
checks and the new values in it succeed alike and no step runs into a fault, then all
that can be seen is the same, after every step. -/
theorem secret_unseen {t : Translator} {throwEarly : Bool} {field : Option String}
    {v₁ v₂ : Value} {p q : List (Nat × Operation)}
    (hpq : List.Forall₂ (fun a b => a.1 = b.1 ∧ a.2.Corresponds b.2) p q)
    (hs : (stages ⟨Rules.standard mail,t,throwEarly⟩ (confidence field v₁) p).map
        Stage.successes =
      (stages ⟨Rules.standard mail,t,throwEarly⟩ (confidence field v₂) q).map Stage.successes)
    (hf : ∀ s ∈ stages ⟨Rules.standard mail,t,throwEarly⟩ (confidence field v₁) p ++
      stages ⟨Rules.standard mail,t,throwEarly⟩ (confidence field v₂) q, s.faulted = false) :
    (confidence field v₁).SameView (confidence field v₂) ∧
      List.Forall₂ Stage.SameView
        (stages ⟨Rules.standard mail,t,throwEarly⟩ (confidence field v₁) p)
        (stages ⟨Rules.standard mail,t,throwEarly⟩ (confidence field v₂) q) := by
  have htwins := twins_confidence field v₁ v₂
  have hsound : (confidence field v₁).Sound := by
    have hseed : Run.Steady .all .empty (Run.seed v₁ field true) (Run.Reaches .all) :=
      Run.seedOn_steady (Scope.openFrom_all _)
    exact World.sound_empty.extend hseed.world
  refine ⟨htwins.sameView,?_⟩
  exact stages_sameView (Rules.standard_discreet mail) hpq htwins hsound hs
    (fun s hs => hf s (List.mem_append_left _ hs))
    (fun s hs => hf s (List.mem_append_right _ hs))

/-- Two passwords that are too short in both of two alternatives. -/
theorem secret_unseen_passwords :
    let σ : Setting := ⟨Rules.standard .none,.silent,false⟩
    let p : List (Nat × Operation) :=
      [(0,.rules "asTrim;lgte,10|lgte,9"),(1,.describe),(2,.validate)]
    let w := confidence (some "pw") (.text "hunter2")
    let u := confidence (some "pw") (.text "letmein")
    (stages σ w p).map Stage.successes = [[[some true,some false],[some false]],[],[]] ∧
      (stages σ u p).map Stage.successes = [[[some true,some false],[some false]],[],[]] ∧
      w.SameView u ∧ List.Forall₂ Stage.SameView (stages σ w p) (stages σ u p) := by
  intro σ p w u
  have hw : (stages σ w p).map Stage.successes =
      [[[some true,some false],[some false]],[],[]] := by
    decide +kernel
  have hu : (stages σ u p).map Stage.successes =
      [[[some true,some false],[some false]],[],[]] := by
    decide +kernel
  have hf : ((stages σ w p ++ stages σ u p).all fun s => !s.faulted) = true := by
    decide +kernel
  refine ⟨hw,hu,secret_unseen ?_ (hw.trans hu.symm) ?_⟩
  · exact .cons ⟨rfl,.rules _⟩ (.cons ⟨rfl,.describe⟩ (.cons ⟨rfl,.validate⟩ .nil))
  · intro s hs
    simpa using List.all_eq_true.mp hf s hs

end Vetting
