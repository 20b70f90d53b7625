import Vetting.Proofs.Chain.Alternatives
import Vetting.Proofs.Chain.History

/-!
# Policies for nodes and messages

A policy lays down what is to hold of nodes and of messages that are asked for. It says
why each way of making a node out of another one, and each way of asking for a message,
complies with it; so every operation does, as long as what callers bring along complies
too: the named values of a check, a copy that they describe themselves, and the nodes for
the fields of a dictionary. A policy may be laid down from some point on only, for the
nodes of a scope and for the messages that are asked for later.
-/
namespace Vetting

structure Policy (σ : Setting) where
  node : Node → Prop
  call : Call → Prop
  /-- Named values that a check may bring along. -/
  fields : Named Value → Prop
  passed {n : Node} (label : Value) :
    node n → node { n with checks := n.checks ++ [.passed label] }
  /-- Failed checks are added only where they are not thrown. -/
  failed {n : Node} (message : String) :
    σ.throwEarly = false → node n → node { n with checks := n.checks ++ [.failed message] }
  moved {n : Node} (c : Nat) : node n → node { n with value := c }
  forked {n : Node} (i : Nat) : node n → node (n.forked i)
  asked {n : Node} {fs : Named Value} (key v : Value) (rule : String) :
    node n → fields fs → call ⟨key,Named.overlay (n.heading.context v rule) fs⟩
  refused (field : String) (errors : List String) :
    call ⟨.text invalidKey,
      [("attribute",.text field),("errors",.list (errors.map .text))]⟩
  brought {name : String} {r : Rule} {v : Value} {args : List Value} {byName : Named Value}
    {passed : Bool} {message : Value} {rule : String} {fs : Named Value} :
    σ.registry.get? name = some r →
      r.call v args byName = .ok (.verdict passed message rule fs) → fields fs

namespace Policy
variable {σ : Setting} {S : Scope} {q : Nat} {w u : World} {i : Nat}

/-- The nodes of a scope comply, and so do all messages but the first `q`. -/
structure Governs (P : Policy σ) (S : Scope) (q : Nat) (w : World) : Prop where
  node : ∀ i < w.nodes.size, S.node i → P.node (w.node i)
  call : ∀ c ∈ w.calls.toList.drop q, P.call c
  le : q ≤ w.calls.size

namespace Governs
variable {P : Policy σ}

theorem empty (P : Policy σ) : P.Governs S 0 .empty := by
  refine ⟨?_,?_,Nat.zero_le _⟩
  · intro i hi
    simp [World.empty] at hi
  · intro c hc
    simp [World.empty] at hc

/-- Nothing has been done yet, so only the nodes of the scope that are there count. -/
theorem start (h : ∀ i < w.nodes.size, S.node i → P.node (w.node i)) :
    P.Governs S w.calls.size w := by
  refine ⟨h,?_,Nat.le_refl _⟩
  intro c hc
  rw [List.drop_of_length_le (by simp)] at hc
  cases hc

theorem of_eq (h : P.Governs S q w) (hn : u.nodes = w.nodes) (hq : u.calls = w.calls) :
    P.Governs S q u := by
  refine ⟨?_,?_,?_⟩
  · intro i hi
    rw [World.node_eq_of_nodes_eq hn]
    exact h.node i (hn ▸ hi)
  · rw [hq]
    exact h.call
  · rw [hq]
    exact h.le

theorem pushNode {n : Node} (h : P.Governs S q w) (hp : P.node n)
    (hn : u.nodes = w.nodes.push n) (hq : u.calls = w.calls) : P.Governs S q u := by
  refine ⟨?_,?_,?_⟩
  · intro i hi hs
    rw [World.node_push hn]
    split
    · exact hp
    · rw [hn,Array.size_push] at hi
      exact h.node i (by omega) hs
  · rw [hq]
    exact h.call
  · rw [hq]
    exact h.le

theorem pushCall {c : Call} (h : P.Governs S q w) (hp : P.call c) (hn : u.nodes = w.nodes)
    (hq : u.calls = w.calls.push c) : P.Governs S q u := by
  have hle := h.le
  refine ⟨?_,?_,?_⟩
  · intro i hi
    rw [World.node_eq_of_nodes_eq hn]
    exact h.node i (hn ▸ hi)
  · intro d hd
    rw [hq,Array.toList_push,List.drop_append_of_le_length (by simpa using hle)] at hd
    rcases List.mem_append.mp hd with hd | hd
    · exact h.call d hd
    · rw [List.mem_singleton.mp hd]
      exact hp
  · rw [hq,Array.size_push]
    omega

theorem addCheck {c : Check} (h : P.Governs S q w) (hi : S.node i)
    (hc : P.node (w.node i) → P.node { w.node i with checks := (w.node i).checks ++ [c] }) :
    P.Governs S q (w.addCheck i c) := by
  refine ⟨?_,h.call,h.le⟩
  intro j hj hs
  rw [World.size_addCheck] at hj
  by_cases hji : j = i
  · rw [hji] at hj ⊢
    rw [World.node_addCheck_self hj]
    exact hc (h.node i hj hi)
  · rw [World.node_addCheck_of_ne hji]
    exact h.node j hj hs

end Governs

variable {α β : Type} {P : Policy σ}

/-- What a run leaves complies, whether it fails or not. -/
def Keeps (P : Policy σ) (S : Scope) (q : Nat) (w : World) (x : Run α) : Prop :=
  P.Governs S q (x.exec w).2

namespace Keeps

theorem of_exec {x : Run α} {r : Except Failure α} (h : x.exec w = (r,u))
    (hu : P.Governs S q u) : P.Keeps S q w x := by
  rw [Keeps,h]
  exact hu

theorem pure {a : α} (h : P.Governs S q w) : P.Keeps S q w (Pure.pure a : Run α) := h

theorem throw {f : Failure} (h : P.Governs S q w) :
    P.Keeps S q w (MonadExcept.throw f : Run α) := h

/-- The second run starts in a world that complies and that the first run has reached. -/
theorem bind {T : Scope} {x : Run α} {f : α → Run β} {Q : α → World → Prop}
    (hx : P.Keeps S q w x) (hs : Run.Steady T w x Q)
    (hf : ∀ a u, w.Extends T u → Q a u → P.Governs S q u → P.Keeps S q u (f a)) :
    P.Keeps S q w (x >>= f) := by
  cases h : x.exec w with
  | mk r u =>
      have hu : P.Governs S q u := by
        rw [Keeps,h] at hx
        exact hx
      cases r with
      | error e => exact of_exec (Run.exec_bind_of_error h f) hu
      | ok a =>
          obtain ⟨he,hq⟩ := hs.of_ok h
          exact of_exec (Run.exec_bind_of_ok h f) (hf a u he hq hu)

theorem get_bind {f : World → Run β} (h : P.Keeps S q w (f w)) :
    P.Keeps S q w (get >>= f) := h

theorem nodeAt_bind {f : Node → Run β} (h : P.Keeps S q w (f (w.node i))) :
    P.Keeps S q w (Run.nodeAt i >>= f) := h

theorem ofExcept_bind {r : Except Failure α} {f : α → Run β} (h : P.Governs S q w)
    (hf : ∀ a, r = .ok a → P.Keeps S q w (f a)) :
    P.Keeps S q w (Run.ofExcept r >>= f) := by
  cases r with
  | error e => exact h
  | ok a => exact hf a rfl

theorem ofFault_bind {r : Except Fault α} {f : α → Run β} (h : P.Governs S q w)
    (hf : ∀ a, P.Keeps S q w (f a)) : P.Keeps S q w (Run.ofFault r >>= f) :=
  ofExcept_bind h fun a _ => hf a

/-- Records are no concern of a policy. -/
theorem log_bind {l : Level} {m : String} {f : Unit → Run β} (h : P.Governs S q w)
    (hf : ∀ u : World, u.nodes = w.nodes → P.Governs S q u → P.Keeps S q u (f ())) :
    P.Keeps S q w (Run.log l m >>= f) :=
  of_exec (Run.exec_bind_of_ok (Run.exec_log l m w) f) (hf _ rfl (h.of_eq rfl rfl))

/-- A new cell, and after it a run that looks at the same nodes. -/
theorem store_bind {v : Value} {f : Nat → Run β} (h : P.Governs S q w)
    (hf : ∀ u : World, u.nodes = w.nodes → P.Governs S q u → P.Keeps S q u (f w.cells.size)) :
    P.Keeps S q w (Run.store v >>= f) :=
  of_exec (Run.exec_bind_of_ok (Run.exec_store v w) f) (hf _ rfl (h.of_eq rfl rfl))

theorem place_bind {o : Operand} {f : Nat → Run β} (h : P.Governs S q w)
    (hf : ∀ (c : Nat) (u : World), u.nodes = w.nodes → P.Governs S q u →
      P.Keeps S q u (f c)) : P.Keeps S q w (Run.place o >>= f) := by
  cases o with
  | new v => exact .store_bind h (hf _)
  | held c =>
      rw [Run.place,bind_assoc]
      refine .get_bind ?_
      split
      · rw [pure_bind]
        exact hf c w rfl h
      · exact .store_bind h (hf _)

theorem translate {key : Value} {context : Named Value} (h : P.Governs S q w)
    (hc : P.call ⟨key,context⟩) : P.Keeps S q w (Run.translate σ key context) :=
  of_exec (Run.exec_translate σ key context w) (h.pushCall hc rfl rfl)

theorem addNode {n : Node} (h : P.Governs S q w) (hn : P.node n) :
    P.Keeps S q w (Run.addNode n) :=
  of_exec (Run.exec_addNode n w) (h.pushNode hn rfl rfl)

end Keeps

theorem seedOn_keeps {o : Operand} {field : Option String} {sensitive : Bool}
    (h : P.Governs S q w) (hn : ∀ c, P.node ⟨c,c,field,sensitive,none,[]⟩) :
    P.Keeps S q w (Run.seedOn o field sensitive) := by
  refine .of_exec (Run.exec_bind_of_ok (Run.exec_modify _ w) _) ?_
  exact Keeps.place_bind (h.of_eq rfl rfl) fun c _ _ hu => .addNode hu (hn c)

theorem fail_keeps {n : Node} {rule s : String} (h : P.Governs S q w) (hi : S.node i) :
    P.Keeps S q w (Run.check.fail σ i rule n s) := by
  unfold Run.check.fail
  split
  · exact .throw h
  · rename_i hσ
    exact .of_exec (Run.exec_addCheck i _ w)
      (h.addCheck hi (P.failed _ (Bool.eq_false_iff.mpr hσ)))

/-- A check is made on a node that is there, so that its message complies. -/
theorem check_keeps {passed : Bool} {message : Value} {rule : String} {fs : Named Value}
    (h : P.Governs S q w) (hi : S.node i) (hlt : i < w.nodes.size) (hfs : P.fields fs) :
    P.Keeps S q w (Run.check σ i passed message rule fs) := by
  unfold Run.check
  split
  · exact .of_exec (Run.exec_addCheck i _ w) (h.addCheck hi (P.passed _))
  · have hc := P.asked (Run.messageKey message rule) (w.value i) rule (h.node i hlt hi) hfs
    refine .get_bind (.bind (.translate h hc) (Run.Steady.translate (S := S)) ?_)
    intro translated u _ _ hu
    split
    · exact fail_keeps hu hi
    · exact fail_keeps hu hi
    · exact .throw hu

theorem derive_keeps {v : Value} (h : P.Governs S q w) (hi : S.node i)
    (hlt : i < w.nodes.size) : P.Keeps S q w (Run.derive i v) := by
  refine .store_bind h fun u hn hu => .nodeAt_bind (.addNode hu ?_)
  rw [World.node_eq_of_nodes_eq hn]
  exact P.moved _ (h.node i hlt hi)

theorem fork_keeps (h : P.Governs S q w) (hi : S.node i) (hlt : i < w.nodes.size) :
    P.Keeps S q w (Run.fork i) :=
  .nodeAt_bind (.addNode h (P.forked i (h.node i hlt hi)))

theorem conclude_keeps {o : Outcome} (h : P.Governs S q w) (hi : S.node i)
    (hlt : i < w.nodes.size)
    (ho : ∀ passed message rule fs, o = .verdict passed message rule fs → P.fields fs) :
    P.Keeps S q w (Run.conclude σ i o) := by
  cases o with
  | verdict passed message rule fs =>
      refine .bind (check_keeps h hi hlt (ho _ _ _ _ rfl)) (Run.check_steady hi) ?_
      exact fun _ u _ _ hu => .pure hu
  | replaced v => exact derive_keeps h hi hlt

theorem applyUnder_keeps {reserved : List String} {name : String} {args : List Value}
    {byName : Named Value} (h : P.Governs S q w) (hi : S.node i) (hlt : i < w.nodes.size) :
    P.Keeps S q w (Run.applyUnder reserved σ i name args byName) := by
  unfold Run.applyUnder
  split
  · exact .throw h
  · cases hr : σ.registry.get? name with
    | none => exact .throw h
    | some r =>
        refine .get_bind (.ofExcept_bind h fun o ho => conclude_keeps h hi hlt ?_)
        rintro passed message rule fs rfl
        exact P.brought hr ho

theorem apply_keeps {name : String} {args : List Value} {byName : Named Value}
    (h : P.Governs S q w) (hi : S.node i) (hlt : i < w.nodes.size) :
    P.Keeps S q w (Run.apply σ i name args byName) :=
  applyUnder_keeps h hi hlt

theorem invoke_keeps {name : String} {args : List Value} {byName : Named Value}
    (h : P.Governs S q w) (hi : S.node i) (hlt : i < w.nodes.size) :
    P.Keeps S q w (Run.invoke σ i name args byName) := by
  unfold Run.invoke
  split
  · exact .throw h
  · exact apply_keeps h hi hlt

theorem stepArguments_keeps {name : String} {args : List Value} (h : P.Governs S q w) :
    P.Keeps S q w (Run.stepArguments σ name args) := by
  unfold Run.stepArguments
  split
  · exact .pure h
  · split
    · exact .log_bind h fun _ _ hu => .pure hu
    · exact .pure h

theorem applyStep_keeps {s : Step} (h : P.Governs S q w) (hi : S.node i)
    (hlt : i < w.nodes.size) : P.Keeps S q w (Run.applyStep σ i s) := by
  unfold Run.applyStep
  split
  · exact .pure h
  · refine .bind (stepArguments_keeps h) (Run.stepArguments_steady (S := S)) ?_
    intro args u hu _ hgu
    exact apply_keeps hgu hi (hlt.trans_le hu.nodes_le)

theorem steps_keeps {steps : List Step} (h : P.Governs S q w)
    (hS : S.OpenFrom w.nodes.size) (hi : S.node i) (hh : w.Holds i) :
    P.Keeps S q w (steps.foldlM (Run.applyStep σ) i) := by
  induction steps generalizing i w with
  | nil => exact .pure h
  | cons s rest ih =>
      rw [List.foldlM_cons]
      refine .bind (applyStep_keeps h hi hh.lt) (Run.applyStep_steady hS hi hh) ?_
      exact fun j u hu hj hg => ih hg (hS.mono hu.nodes_le) hj.1 hj.2

theorem applyAlternatives_keeps {as : List Alternative} (h : P.Governs S q w)
    (hS : S.OpenFrom w.nodes.size) (hi : S.node i) (hh : w.Holds i) :
    P.Keeps S q w (Run.applyAlternatives σ i as) := by
  induction as generalizing i w with
  | nil => exact .pure h
  | cons a rest ih =>
      refine .bind (steps_keeps h hS hi hh) (Run.steps_steady hS hi hh) ?_
      intro j u hu hj hg
      have hSu := hS.mono hu.nodes_le
      split
      · exact .pure hg
      · refine .bind (fork_keeps hg hj.1 hj.2.lt) (Run.fork_steady hSu hj.2) ?_
        exact fun k x hx hk hgx => ih hgx (hSu.mono hx.nodes_le) hk.1 hk.2

theorem rules_keeps {source : String} (h : P.Governs S q w)
    (hS : S.OpenFrom w.nodes.size) (hi : S.node i) (hh : w.Holds i) :
    P.Keeps S q w (Run.rules σ i source) := by
  refine .bind (applyAlternatives_keeps h hS hi hh)
    (Run.applyAlternatives_steady hS hi hh) ?_
  exact fun j u _ _ hg => .get_bind (.log_bind hg fun _ _ hx => .pure hx)

theorem validate_keeps (h : P.Governs S q w) : P.Keeps S q w (Run.validate σ i) := by
  refine .get_bind ?_
  split
  · exact .pure h
  · refine .bind (.translate h (P.refused _ _)) (Run.Steady.translate (S := S)) ?_
    exact fun translated u _ _ hu => .log_bind hu fun _ _ hx => .throw hx

/-- A copy as a caller describes it. -/
def copied (n : Node) (c : Run.Changes) (value initial : Nat) : Node where
  value := value
  initial := initial
  field := c.field.or n.field
  sensitive := c.sensitive.getD n.sensitive
  parent := n.parent
  checks := if c.keepChecks then n.checks else []

theorem clone_keeps {o : Operand} {c : Run.Changes} (h : P.Governs S q w)
    (hn : ∀ value initial, P.node (copied (w.node i) c value initial)) :
    P.Keeps S q w (Run.clone i o c) := by
  refine .nodeAt_bind (.place_bind h fun cell u _ hu => ?_)
  cases c.initial with
  | some first => exact .place_bind hu fun _ x _ hx => .addNode hx (hn _ _)
  | none => exact .addNode hu (hn _ _)

theorem describe_keeps (h : P.Governs S q w) : P.Keeps S q w (Run.describe i) := by
  refine .get_bind ?_
  dsimp only
  split
  · exact .ofFault_bind h fun _ => .pure h
  · exact .ofFault_bind h fun _ => .ofFault_bind h fun _ => .pure h

theorem applyExpressions_keeps {es : List String} (h : P.Governs S q w)
    (hS : S.OpenFrom w.nodes.size) (hi : S.node i) (hh : w.Holds i) :
    P.Keeps S q w (Run.applyExpressions σ i es) := by
  induction es generalizing i w with
  | nil => exact .pure h
  | cons e rest ih =>
      refine .bind (rules_keeps h hS hi hh) (Run.rules_steady hS hi hh) ?_
      intro j u hu hj hg
      have hSu := hS.mono hu.nodes_le
      split
      · exact .pure hg
      · refine .bind (fork_keeps hg hj.1 hj.2.lt) (Run.fork_steady hSu hj.2) ?_
        exact fun k x hx hk hgx => ih hgx (hSu.mono hx.nodes_le) hk.1 hk.2

theorem writeBack_keeps {c : Nat} {path : String} {v : Value} (h : P.Governs S q w) :
    P.Keeps S q w (Run.writeBack c path v) := by
  have hu : P.Governs S q
      { w with cells := w.cells.setIfInBounds c (Path.write path (w.cell c) v).1 } :=
    h.of_eq rfl rfl
  exact .get_bind (Keeps.of_exec (Run.exec_ofExcept _ _) hu)

/-- The node for a field of a dictionary. -/
def fieldStart (n : Node) (field : String) (c : Nat) : Node :=
  ⟨c,c,some (splitField field).1,(splitField field).2,n.parent,[]⟩

/-- All that is done for a field is done on nodes of its own, so that the node of the
dictionary itself need not comply. -/
theorem applyField_keeps {field : String} {fieldRules : Value} (h : P.Governs S q w)
    (hS : S.OpenFrom w.nodes.size) (hh : w.Holds i)
    (hn : ∀ c, P.node (fieldStart (w.node i) field c)) :
    P.Keeps S q w (Run.applyField σ i field fieldRules) := by
  refine .nodeAt_bind (.get_bind (.ofFault_bind h fun current => ?_))
  refine .bind ?_ (Run.fieldNode_steady hS hh) ?_
  · exact .nodeAt_bind (.store_bind h fun u _ hu => .addNode hu (hn _))
  · intro start u hu hs hg
    refine .ofFault_bind hg fun es => ?_
    have hSu := hS.mono hu.nodes_le
    refine .bind (applyExpressions_keeps hg hSu hs.1 hs.2)
      (Run.applyExpressions_steady hSu hs.1 hs.2) ?_
    intro j x _ hj hx
    have hv := Run.validate_steady (σ := σ) hj.1 hj.2
    refine .bind (T := S) (Q := fun _ _ => True) ?_ ?_ ?_
    · exact .bind (validate_keeps hx) hv fun _ _ _ _ hy => .pure hy
    · exact .bind hv fun _ _ _ _ => .pure trivial
    · intro _ y _ _ hy
      refine .get_bind (.ofFault_bind hy fun differs => ?_)
      split
      · exact .log_bind hy fun _ _ hz => writeBack_keeps hz
      · exact .pure hy

theorem applyFields_keeps {fields : Named Value} (h : P.Governs S q w)
    (hS : S.OpenFrom w.nodes.size) (hh : w.Holds i)
    (hn : ∀ f ∈ fields, ∀ n : Node, ∀ c, P.node (fieldStart n f.1 c)) :
    P.Keeps S q w (Run.applyFields σ i fields) := by
  have hfields : P.Keeps S q w (fields.forM fun f => Run.applyField σ i f.1 f.2) := by
    induction fields generalizing w with
    | nil => exact .pure h
    | cons f rest ih =>
        obtain ⟨hf,hrest⟩ := List.forall_mem_cons.mp hn
        refine .bind (applyField_keeps h hS hh (hf _))
          (Run.applyField_steady (Scope.openFrom_all _) hh trivial) ?_
        exact fun _ u hu _ hg => ih hg (hS.mono hu.nodes_le) (hh.extend hu) hrest
  refine .get_bind ?_
  split
  · exact .bind hfields (Run.fields_steady (Scope.openFrom_all _) hh trivial)
      fun _ _ _ _ hu => .pure hu
  · exact .throw h

/-- What callers bring along with an operation on a node complies. -/
def Permits (P : Policy σ) (n : Node) : Operation → Prop
  | .check _ _ _ fs => P.fields fs
  | .assoc fields => ∀ f ∈ fields, ∀ m : Node, ∀ c, P.node (fieldStart m f.1 c)
  | .clone _ changes => ∀ value initial, P.node (copied n changes value initial)
  | _ => True

/-- An operation that is permitted leaves everything as it was laid down. -/
theorem operation_keeps {op : Operation} (h : P.Governs S q w)
    (hS : S.OpenFrom w.nodes.size) (hi : S.node i) (hh : w.Holds i)
    (hop : P.Permits (w.node i) op) : P.Keeps S q w (op.run σ i) := by
  cases op with
  | apply name args byName => exact apply_keeps h hi hh.lt
  | invoke name args byName => exact invoke_keeps h hi hh.lt
  | rules source => exact rules_keeps h hS hi hh
  | fork => exact fork_keeps h hi hh.lt
  | check condition message rule fs =>
      exact .bind (check_keeps h hi hh.lt hop) (Run.check_steady hi)
        fun _ _ _ _ hu => .pure hu
  | validate => exact validate_keeps h
  | assoc fields => exact applyFields_keeps h hS hh hop
  | clone o changes => exact clone_keeps h hop
  | describe =>
      refine .bind (T := S) (Q := fun _ _ => True) ?_ ?_ fun _ _ _ _ hu => .pure hu
      · exact .bind (describe_keeps h) (Run.describe_steady (S := S))
          fun _ _ _ _ hu => .pure hu
      · exact .bind Run.describe_steady fun _ _ _ _ => .pure trivial

end Policy

end Vetting
