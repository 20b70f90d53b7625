import Vetting.Proofs.Chain.FirstFailure
import Vetting.Proofs.Rules.Reserve

/-!
# The course of a run

The course of a run tells what the run does on its way: the checks that it makes and the
invalid chains that it refuses to let pass, one after the other, each with the world in
which it happens. Whatever else a run is made of, reading and storing, new nodes, records
and refusals of other kinds, is no event. Every operation on a node has a course, if rules
leave judgements to chains.
-/
namespace Vetting

/-- A check or the refusal of an invalid chain, in a world. -/
inductive Event where
  | check (w : World) (i : Nat) (passed : Bool) (message : Value) (rule : String)
      (fields : Named Value)
  | refusal (w : World) (i : Nat)

namespace Run
variable {α β : Type} {σ : Setting} {w u : World} {i : Nat}

/-- A run from a world with its events, what it comes to, and the world that it leaves.
It is put together of checks, of validations, and of parts in which nothing happens: these
leave the nodes and the messages as they are, or make a node without checks or with those
of another node, and do not fail as checks and validations do. -/
inductive Course (σ : Setting) :
    {α : Type} → Run α → World → List Event → Except Failure α → World → Prop
  | value {α : Type} {r : Except Failure α} (w : World) : Reserved r →
      Course σ (ofExcept r) w [] r w
  | get (w : World) : Course σ get w [] (.ok w) w
  | quiet {α : Type} {f : World → α × World} {w : World} : (f w).2.nodes = w.nodes →
      (f w).2.calls = w.calls → Course σ (modifyGet f) w [] (.ok (f w).1) (f w).2
  | node {n : Node} {w : World} :
      n.checks = [] ∨ (∃ i < w.nodes.size, n.checks = (w.node i).checks) →
      Course σ (addNode n) w [] (.ok w.nodes.size) { w with nodes := w.nodes.push n }
  | check {w : World} {i : Nat} (passed : Bool) (message : Value) (rule : String)
      (fields : Named Value) : i < w.nodes.size →
      Course σ (check σ i passed message rule fields) w
        [.check w i passed message rule fields]
        ((check σ i passed message rule fields).exec w).1
        ((check σ i passed message rule fields).exec w).2
  | passing {w : World} {i : Nat} : w.valid i = true →
      Course σ (validate σ i) w [] (.ok i) w
  | refusing {w : World} {i : Nat} : w.valid i = false →
      Course σ (validate σ i) w [.refusal w i] ((validate σ i).exec w).1
        ((validate σ i).exec w).2
  | ahead {α β : Type} {x : Run α} {f : α → Run β} {w u v : World} {es fs : List Event}
      {a : α} {r : Except Failure β} : Course σ x w es (.ok a) u →
      Course σ (f a) u fs r v → Course σ (x >>= f) w (es ++ fs) r v
  | halted {α β : Type} {x : Run α} {f : α → Run β} {w u : World} {es : List Event}
      {e : Failure} : Course σ x w es (.error e) u →
      Course σ (x >>= f) w es (.error e) u

/-- The course of a run ends as the run does. -/
theorem Course.exec_eq {x : Run α} {es : List Event} {r : Except Failure α}
    (h : Course σ x w es r u) : x.exec w = (r,u) := by
  induction h with
  | value w _ => exact exec_ofExcept _ w
  | get w => rfl
  | quiet _ _ => rfl
  | node _ => rfl
  | check passed message rule fields _ => rfl
  | passing hv => exact exec_validate_of_valid hv
  | refusing _ => rfl
  | ahead _ _ ihx ihf => rw [exec_bind_of_ok ihx,ihf]
  | halted _ ih => exact exec_bind_of_error ih _

def HasCourse (σ : Setting) (w : World) (x : Run α) : Prop :=
  ∃ es r u, Course σ x w es r u

namespace HasCourse

theorem ofExcept {r : Except Failure α} (h : Reserved r) : HasCourse σ w (Run.ofExcept r) :=
  ⟨_,_,_,.value w h⟩

theorem pure (a : α) : HasCourse σ w (Pure.pure a : Run α) := ofExcept (.ok a)

theorem throw {f : Failure} (h : ¬ f.IsJudgement) :
    HasCourse σ w (MonadExcept.throw f : Run α) := ofExcept (.error h)

/-- The second run has a course from every world that the first one may lead to. -/
theorem bind {x : Run α} {f : α → Run β} {Q : α → World → Prop} (hx : HasCourse σ w x)
    (hs : Steady .all w x Q)
    (hf : ∀ a u, w.Extends .all u → Q a u → HasCourse σ u (f a)) :
    HasCourse σ w (x >>= f) := by
  obtain ⟨es,r,u,hc⟩ := hx
  cases r with
  | error e => exact ⟨_,_,_,.halted hc⟩
  | ok a =>
      obtain ⟨hu,hq⟩ := hs.of_ok hc.exec_eq
      obtain ⟨fs,r,v,hd⟩ := hf a u hu hq
      exact ⟨_,_,_,.ahead hc hd⟩

theorem get_bind {f : World → Run β} (h : HasCourse σ w (f w)) :
    HasCourse σ w (get >>= f) := by
  obtain ⟨es,r,u,hc⟩ := h
  exact ⟨_,_,_,.ahead (.get w) hc⟩

theorem nodeAt_bind {f : Node → Run β} (h : HasCourse σ w (f (w.node i))) :
    HasCourse σ w (nodeAt i >>= f) := by
  obtain ⟨es,r,u,hc⟩ := h
  have hn : Course σ (nodeAt i) w ([] ++ []) (.ok (w.node i)) w :=
    .ahead (.get w) (.value w (.ok (w.node i)))
  exact ⟨_,_,_,.ahead hn hc⟩

theorem ofExcept_bind {r : Except Failure α} {f : α → Run β} (hr : Reserved r)
    (h : ∀ a, HasCourse σ w (f a)) : HasCourse σ w (Run.ofExcept r >>= f) := by
  cases r with
  | error e => exact ⟨_,_,_,.halted (.value w hr)⟩
  | ok a =>
      obtain ⟨es,r,u,hc⟩ := h a
      exact ⟨_,_,_,.ahead (.value w hr) hc⟩

theorem ofFault_bind {r : Except Fault α} {f : α → Run β}
    (h : ∀ a, HasCourse σ w (f a)) : HasCourse σ w (Run.ofFault r >>= f) :=
  ofExcept_bind (.orFail r) h

/-- Where nothing happens, the nodes that follow are the same. -/
theorem quiet_bind {f : World → α × World} {g : α → Run β} (hn : (f w).2.nodes = w.nodes)
    (hq : (f w).2.calls = w.calls)
    (hg : ∀ u : World, u.nodes = w.nodes → HasCourse σ u (g (f w).1)) :
    HasCourse σ w (modifyGet f >>= g) := by
  obtain ⟨es,r,u,hc⟩ := hg (f w).2 hn
  exact ⟨_,_,_,.ahead (.quiet hn hq) hc⟩

theorem log_bind {l : Level} {m : String} {g : Unit → Run β}
    (hg : ∀ u : World, u.nodes = w.nodes → HasCourse σ u (g ())) :
    HasCourse σ w (log l m >>= g) := quiet_bind rfl rfl hg

theorem store_bind {v : Value} {g : Nat → Run β}
    (hg : ∀ u : World, u.nodes = w.nodes → HasCourse σ u (g w.cells.size)) :
    HasCourse σ w (store v >>= g) := quiet_bind rfl rfl hg

theorem place_bind {o : Operand} {g : Nat → Run β}
    (hg : ∀ (c : Nat) (u : World), u.nodes = w.nodes → HasCourse σ u (g c)) :
    HasCourse σ w (place o >>= g) := by
  cases o with
  | new v => exact .store_bind (hg _)
  | held c =>
      rw [place,bind_assoc]
      refine .get_bind ?_
      split
      · rw [pure_bind]
        exact hg c w rfl
      · exact .store_bind (hg _)

/-- A node that goes on with the checks of one that is there. -/
theorem addNode {n : Node} (h : n.checks = [] ∨ n.checks = (w.node i).checks)
    (hi : i < w.nodes.size) : HasCourse σ w (Run.addNode n) := by
  have hn : n.checks = [] ∨ ∃ i < w.nodes.size, n.checks = (w.node i).checks := by
    cases h with
    | inl hnil => exact Or.inl hnil
    | inr hchecks => exact Or.inr ⟨i,hi,hchecks⟩
  exact ⟨_,_,_,.node hn⟩

end HasCourse

/-! ## Operations -/

theorem seedOn_course (o : Operand) (field : Option String) (sensitive : Bool) :
    HasCourse σ w (seedOn o field sensitive) := by
  apply HasCourse.quiet_bind rfl rfl
  intro u _
  apply HasCourse.place_bind
  intro c x _
  exact ⟨_,_,_,.node (Or.inl rfl)⟩

theorem check_course {passed : Bool} {message : Value} {rule : String}
    {fields : Named Value} (hi : i < w.nodes.size) :
    HasCourse σ w (check σ i passed message rule fields) :=
  ⟨_,_,_,.check passed message rule fields hi⟩

theorem validate_course : HasCourse σ w (validate σ i) := by
  cases hv : w.valid i with
  | true => exact ⟨_,_,_,.passing hv⟩
  | false => exact ⟨_,_,_,.refusing hv⟩

theorem derive_course {v : Value} (hi : i < w.nodes.size) : HasCourse σ w (derive i v) := by
  apply HasCourse.store_bind
  intro u hu
  apply HasCourse.nodeAt_bind
  exact .addNode (Or.inr rfl) (hu ▸ hi)

theorem fork_course (hi : i < w.nodes.size) : HasCourse σ w (fork i) :=
  .nodeAt_bind (.addNode (Or.inl rfl) hi)

theorem conclude_course {o : Outcome} (h : w.Holds i) : HasCourse σ w (conclude σ i o) := by
  cases o with
  | verdict passed message rule fields =>
      have hs : Steady .all w (check σ i passed message rule fields) _ :=
        check_steady trivial
      exact .bind (check_course h.lt) hs fun _ _ _ _ => .pure i
  | replaced v => exact derive_course h.lt

theorem applyUnder_course (hσ : σ.registry.Reserved) {reserved : List String}
    {name : String} {args : List Value} {byName : Named Value} (h : w.Holds i) :
    HasCourse σ w (applyUnder reserved σ i name args byName) := by
  unfold applyUnder
  split
  · exact .throw id
  · split
    · exact .throw id
    · rename_i r hr
      have hcall := (hσ name r hr).call (w.value i) args byName
      exact .get_bind (.ofExcept_bind hcall fun _ => conclude_course h)

theorem invoke_course (hσ : σ.registry.Reserved) {name : String} {args : List Value}
    {byName : Named Value} (h : w.Holds i) :
    HasCourse σ w (invoke σ i name args byName) := by
  unfold invoke
  split
  · exact .throw id
  · exact applyUnder_course hσ h

theorem stepArguments_course {name : String} {args : List Value} :
    HasCourse σ w (stepArguments σ name args) := by
  unfold stepArguments
  split
  · exact .pure _
  · split
    · exact .log_bind fun _ _ => .pure _
    · exact .pure _

theorem applyStep_course (hσ : σ.registry.Reserved) {s : Step} (h : w.Holds i) :
    HasCourse σ w (applyStep σ i s) := by
  unfold applyStep
  split
  · exact .pure i
  · apply HasCourse.bind stepArguments_course (stepArguments_steady (S := .all))
    intro args u hu _
    exact applyUnder_course hσ (h.extend hu)

theorem steps_course (hσ : σ.registry.Reserved) {steps : List Step} (h : w.Holds i) :
    HasCourse σ w (steps.foldlM (applyStep σ) i) := by
  induction steps generalizing i w with
  | nil => exact .pure i
  | cons s rest ih =>
      rw [List.foldlM_cons]
      apply HasCourse.bind (applyStep_course hσ h)
        (applyStep_steady (Scope.openFrom_all _) trivial h)
      intro j u _ hj
      exact ih hj.2

theorem applyAlternatives_course (hσ : σ.registry.Reserved) {as : List Alternative}
    (h : w.Holds i) :
    HasCourse σ w (applyAlternatives σ i as) := by
  induction as generalizing i w with
  | nil => exact .pure i
  | cons a rest ih =>
      apply HasCourse.bind (steps_course hσ h) (steps_steady (Scope.openFrom_all _) trivial h)
      intro j u _ hj
      split
      · exact .pure j
      · apply HasCourse.bind (fork_course hj.2.lt) (fork_steady (Scope.openFrom_all _) hj.2)
        intro k x _ hk
        exact ih hk.2

theorem rules_course (hσ : σ.registry.Reserved) {source : String} (h : w.Holds i) :
    HasCourse σ w (rules σ i source) := by
  apply HasCourse.bind (applyAlternatives_course hσ h)
    (applyAlternatives_steady (Scope.openFrom_all _) trivial h)
  intro j u _ _
  exact .get_bind (.log_bind fun _ _ => .pure j)

theorem clone_course {o : Operand} {c : Changes} (h : w.Holds i) :
    HasCourse σ w (clone i o c) := by
  apply HasCourse.nodeAt_bind
  apply HasCourse.place_bind
  intro cell u hu
  have hchecks : ∀ {x : World}, x.nodes = w.nodes →
      (if c.keepChecks then (w.node i).checks else []) = [] ∨
        (if c.keepChecks then (w.node i).checks else []) = (x.node i).checks := by
    intro x hx
    rw [World.node_eq_of_nodes_eq hx]
    cases c.keepChecks with
    | true => exact Or.inr rfl
    | false => exact Or.inl rfl
  cases c.initial with
  | none => exact .addNode (hchecks hu) (hu ▸ h.lt)
  | some first =>
      apply HasCourse.place_bind
      intro initial x hx
      have hxw : x.nodes = w.nodes := hx.trans hu
      exact .addNode (hchecks hxw) (hxw ▸ h.lt)

theorem describe_course : HasCourse σ w (describe i) := by
  apply HasCourse.get_bind
  dsimp only
  split
  · exact .ofFault_bind fun _ => .pure _
  · exact .ofFault_bind fun _ => .ofFault_bind fun _ => .pure _

theorem applyExpressions_course (hσ : σ.registry.Reserved) {es : List String}
    (h : w.Holds i) :
    HasCourse σ w (applyExpressions σ i es) := by
  induction es generalizing i w with
  | nil => exact .pure i
  | cons e rest ih =>
      apply HasCourse.bind (rules_course hσ h) (rules_steady (Scope.openFrom_all _) trivial h)
      intro j u _ hj
      split
      · exact .pure j
      · apply HasCourse.bind (fork_course hj.2.lt) (fork_steady (Scope.openFrom_all _) hj.2)
        intro k x _ hk
        exact ih hk.2

theorem fieldNode_course {field : String} {sensitive : Bool} {v : Value}
    (h : w.Holds i) : HasCourse σ w (fieldNode i field sensitive v) := by
  apply HasCourse.nodeAt_bind
  apply HasCourse.store_bind
  intro u hu
  exact .addNode (Or.inl rfl) (hu ▸ h.lt)

theorem write_reserved (path : String) (v u : Value) : Reserved (Path.write path v u).2 := by
  intro f h hf
  have hfamily := Path.write_family h
  cases f with
  | failedCheck m rule field => simp [Failure.family?] at hfamily
  | invalid m field errors => simp [Failure.family?] at hfamily
  | _ => exact hf

theorem writeBack_course {c : Nat} {path : String} {v : Value} :
    HasCourse σ w (writeBack c path v) :=
  .get_bind (.quiet_bind rfl rfl fun _ _ => .ofExcept (write_reserved _ _ _))

theorem applyField_course (hσ : σ.registry.Reserved) {field : String} {fieldRules : Value}
    (h : w.Holds i) : HasCourse σ w (applyField σ i field fieldRules) := by
  apply HasCourse.nodeAt_bind
  apply HasCourse.get_bind
  apply HasCourse.ofFault_bind
  intro current
  apply HasCourse.bind (fieldNode_course h) (fieldNode_steady (Scope.openFrom_all _) h)
  intro start u _ hs
  apply HasCourse.ofFault_bind
  intro es
  apply HasCourse.bind (applyExpressions_course hσ hs.2)
    (applyExpressions_steady (Scope.openFrom_all _) trivial hs.2)
  intro j x _ hj
  have hv : Steady .all x (validate σ j) _ := validate_steady trivial hj.2
  apply HasCourse.bind (Q := fun _ _ => True) (.bind validate_course hv fun _ _ _ _ => .pure ())
    (.bind hv fun _ _ _ _ => .pure trivial)
  intro _ y _ _
  apply HasCourse.get_bind
  apply HasCourse.ofFault_bind
  intro differs
  split
  · exact .log_bind fun _ _ => writeBack_course
  · exact .pure ()

theorem fields_course (hσ : σ.registry.Reserved) {fields : Named Value} (h : w.Holds i) :
    HasCourse σ w (fields.forM fun f => applyField σ i f.1 f.2) := by
  induction fields generalizing w with
  | nil => exact .pure ()
  | cons f rest ih =>
      apply HasCourse.bind (applyField_course hσ h)
        (applyField_steady (Scope.openFrom_all _) h trivial)
      intro _ u hu _
      exact ih (h.extend hu)

theorem applyFields_course (hσ : σ.registry.Reserved) {fields : Named Value}
    (h : w.Holds i) :
    HasCourse σ w (applyFields σ i fields) := by
  apply HasCourse.get_bind
  split
  · exact .bind (fields_course hσ h) (fields_steady (Scope.openFrom_all _) h trivial)
      fun _ _ _ _ => .pure i
  · exact .throw id

end Run

/-- Every operation on a node has a course, from parts that have one. -/
theorem Operation.run_course (op : Operation) {σ : Setting} {w : World} {i : Nat}
    (hσ : σ.registry.Reserved) (h : w.Holds i) : Run.HasCourse σ w (op.run σ i) := by
  cases op with
  | apply name args byName => exact Run.applyUnder_course hσ h
  | invoke name args byName => exact Run.invoke_course hσ h
  | rules source => exact Run.rules_course hσ h
  | fork => exact Run.fork_course h.lt
  | check condition message rule fields =>
      have hs : Run.Steady .all w (Run.check σ i condition.truth message rule fields) _ :=
        Run.check_steady trivial
      exact .bind (Run.check_course h.lt) hs fun _ _ _ _ => .pure i
  | validate => exact Run.validate_course
  | assoc fields => exact Run.applyFields_course hσ h
  | clone o changes => exact Run.clone_course h
  | describe =>
      have hs : Run.Steady .all w (Run.describe i) _ := Run.describe_steady
      have hd : Run.HasCourse σ w (discard (Run.describe i)) :=
        .bind Run.describe_course hs fun _ _ _ _ => .pure ()
      exact .bind hd (Q := fun _ _ => True) (.bind hs fun _ _ _ _ => .pure trivial)
        fun _ _ _ _ => .pure i

end Vetting
