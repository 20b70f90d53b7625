import Vetting.Proofs.Chain.Lineage
import Vetting.Proofs.Chain.Steady
import Vetting.Rules.Standard

/-!
# Histories of a validation

A history seeds chains and works on the nodes that it has made so far, in any order, with
operations that may fail. `Later` relates the worlds that it passes through. Whatever
happens, nodes stay what they are and only gain checks, no operation puts a check on
another node that is there already, parents come before their children, and a chain that
has been found invalid stays invalid.
-/
namespace Vetting

/-- What can be done to a node. -/
inductive Operation where
  | apply (name : String) (args : List Value) (byName : Named Value)
  | invoke (name : String) (args : List Value) (byName : Named Value)
  | rules (source : String)
  | fork
  | check (condition message : Value) (rule : String) (fields : Named Value)
  | validate
  | assoc (fields : Named Value)
  | clone (o : Operand) (changes : Run.Changes)
  | describe

namespace Operation

/-- The run of an operation on a node. Its result is the node that comes out. -/
def run (σ : Setting) (i : Nat) : Operation → Run Nat
  | .apply name args byName => Run.apply σ i name args byName
  | .invoke name args byName => Run.invoke σ i name args byName
  | .rules source => Run.rules σ i source
  | .fork => Run.fork i
  | .check condition message rule fields => do
      Run.check σ i condition.truth message rule fields
      return i
  | .validate => Run.validate σ i
  | .assoc fields => Run.applyFields σ i fields
  | .clone o changes => Run.clone i o changes
  | .describe => do
      discard (Run.describe i)
      return i

/-- What belongs to a node, and the cell of its value. -/
def scope (w : World) (i : Nat) : Scope :=
  { w.scope i with cell := fun c => c = (w.node i).value }

/-- No operation adds a check to a node other than its own, or writes to a value other
than that of its node, among those that are there already. -/
theorem run_steady (op : Operation) {σ : Setting} {w : World} {i : Nat} (h : w.Holds i) :
    Run.Steady (scope w i) w (op.run σ i) fun _ _ => True := by
  have hS : (scope w i).OpenFrom w.nodes.size := w.openFrom_scope i
  have hi : (scope w i).node i := w.scope_self i
  cases op with
  | apply name args byName => exact .weaken (Run.apply_steady hS hi h) fun _ _ _ _ => trivial
  | invoke name args byName =>
      exact .weaken (Run.invoke_steady hS hi h) fun _ _ _ _ => trivial
  | rules source => exact .weaken (Run.rules_steady hS hi h) fun _ _ _ _ => trivial
  | fork => exact .weaken (Run.fork_steady hS h) fun _ _ _ _ => trivial
  | check condition message rule fields =>
      exact .bind (Run.check_steady hi) fun _ _ _ _ => .pure trivial
  | validate => exact .weaken (Run.validate_steady hi h) fun _ _ _ _ => trivial
  | assoc fields => exact .weaken (Run.applyFields_steady hS h rfl) fun _ _ _ _ => trivial
  | clone o changes => exact .weaken (Run.clone_steady hS h) fun _ _ _ _ => trivial
  | describe =>
      refine .bind (P := fun _ _ => True) ?_ fun _ _ _ _ => .pure trivial
      exact .bind Run.describe_steady fun _ _ _ _ => .pure trivial

end Operation

/-- The worlds that come after a world in a history. An operation is done on a node that
is there; what it leaves when it fails is a world of the history like any other. -/
inductive Later (σ : Setting) (w : World) : World → Prop
  | refl : Later σ w w
  | seed {u : World} (o : Operand) (field : Option String) (sensitive : Bool) :
      Later σ w u → Later σ w ((Run.seedOn o field sensitive).exec u).2
  | operate {u : World} {i : Nat} (op : Operation) :
      Later σ w u → i < u.nodes.size → Later σ w ((op.run σ i).exec u).2

namespace Later
variable {σ : Setting} {w u : World}

theorem extends_sound (hu : Later σ w u) (hw : w.Sound) : w.Extends .all u ∧ u.Sound := by
  induction hu with
  | refl => exact ⟨.refl _ _,hw⟩
  | @seed u o field sensitive _ ih =>
      have hs : Run.Steady .all u (Run.seedOn o field sensitive) (Run.Reaches .all) :=
        Run.seedOn_steady (Scope.openFrom_all _)
      exact ⟨ih.1.trans hs.world,ih.2.extend hs.world⟩
  | operate op _ hi ih =>
      have hs := (op.run_steady (σ := σ) (ih.2 _ hi)).world
      exact ⟨ih.1.trans (hs.mono (fun _ _ => trivial) fun _ _ => trivial),ih.2.extend hs⟩

end Later

/-- Whatever is done later in a history, a node keeps all that it is and its checks, to
which further ones are only appended; an operation changes no node but its own among
those that are there; a parent stands before its children, so that going from a node to
its parent comes to an end; and a chain without a clean node never gets one. Rules of any
registry give a verdict or a new value and do nothing else. -/
theorem nodes_persist {σ : Setting} {w u : World} (hw : Later σ .empty w)
    (hu : Later σ w u) :
    (∀ i < w.nodes.size, i < u.nodes.size ∧ (w.node i).GrowsTo (u.node i)) ∧
    (∀ k < w.nodes.size, ∀ op : Operation, ∀ i < w.nodes.size, i ≠ k →
      ((op.run σ k).exec w).2.node i = w.node i) ∧
    (∀ i < w.nodes.size, ∀ p, w.ParentOf p i → p < i) ∧ WellFounded w.ParentOf ∧
    (∀ i < w.nodes.size, w.valid i = false → u.valid i = false) := by
  have hs := (hw.extends_sound World.sound_empty).2
  have he := (hu.extends_sound hs).1
  refine ⟨?_,?_,?_,hs.wellFounded_parentOf,?_⟩
  · intro i hi
    exact ⟨hi.trans_le he.nodes_le,he.node_grows i hi⟩
  · intro k hk op i hi hne
    have hop := (op.run_steady (σ := σ) (hs k hk)).world
    refine hop.node_eq i hi ?_
    rintro (rfl | hge)
    · exact hne rfl
    · exact Nat.not_lt.mpr hge hi
  · intro i hi p hp
    exact (hs i hi).parent_lt p hp
  · intro i hi hv
    exact hs.valid_antitone he hi hv

/-- A chain on 5 that has failed a check is invalid, and so it is when an expression with
two alternatives has been applied to it. -/
theorem nodes_persist_failed_check :
    let σ : Setting := ⟨Rules.standard .none,.silent,false⟩
    let seeded := ((Run.seed (.int 5) (some "age") false).exec .empty).2
    let w := (((Operation.check (.bool false) .null "adult" []).run σ 0).exec seeded).2
    let u := (((Operation.rules "asTrim|asTrim").run σ 0).exec w).2
    Later σ .empty w ∧ Later σ w u ∧ w.valid 0 = false ∧ u.valid 0 = false := by
  intro σ seeded w u
  have hw : Later σ .empty w :=
    .operate _ (.seed (.new (.int 5)) (some "age") false .refl) (by decide)
  have hu : Later σ w u := .operate _ .refl (by decide)
  have hv : w.valid 0 = false := by
    rw [World.valid,World.lineage_of_root rfl]
    rfl
  exact ⟨hw,hu,hv,(nodes_persist hw hu).2.2.2.2 0 (by decide) hv⟩

end Vetting
