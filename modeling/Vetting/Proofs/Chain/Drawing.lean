import Vetting.Proofs.Chain.Application
import Vetting.Proofs.Chain.Composition

/-!
# What a step does that does not stop the run

Whether failures are thrown or collected, a step that comes to a result has drawn the outcome
of its rule: a verdict has been judged and recorded on the node that the step started on, and
a new value has made a new node and left the old one as it was.
-/
namespace Vetting

namespace Run
variable {σ : Setting} {w u : World} {i j : Nat}

/-- A check that does not stop the run has been judged and recorded. -/
theorem check_records {passed : Bool} {message : Value} {rule : String} {fields : Named Value}
    (hx : (check σ i passed message rule fields).exec w = (.ok (),u)) :
    ∃ c, (w.node i).heading.judge σ (w.value i) passed message rule fields = .ok c ∧
      u.nodes = (w.addCheck i c).nodes ∧ u.cells = w.cells ∧
      w.calls.toList <+: u.calls.toList := by
  obtain ⟨ρ,t,early⟩ := σ
  cases early with
  | false => exact (check_follows rfl).of_ok hx
  | true =>
      cases passed with
      | true =>
          cases hx
          exact ⟨_,rfl,rfl,rfl,List.prefix_rfl⟩
      | false =>
          rcases exec_check_failed ρ t w i message rule fields with ⟨f,hf⟩ | ⟨s,-,hf⟩
          · rw [hf true] at hx
            cases hx
          · rw [hf true] at hx
            cases hx

/-- What an outcome does to a node where it does not stop the run: a verdict is recorded on
the node, and a new value leaves the node as it is. -/
def Drawn (σ : Setting) (w u : World) (i j : Nat) : Outcome → Prop
  | .verdict passed message rule fields => j = i ∧ ∃ c,
      (w.node i).heading.judge σ (w.value i) passed message rule fields = .ok c ∧
      w.Continues u i i { w.strand (w.node i) with checks := (w.node i).checks ++ [c] }
  | .replaced _ => i < j ∧ u.Holds j ∧ u.node i = w.node i

theorem conclude_drawn {o : Outcome} (h : w.Holds i)
    (hx : (conclude σ i o).exec w = (.ok j,u)) : Drawn σ w u i j o := by
  cases o with
  | verdict passed message rule fields =>
      obtain ⟨_,v,hc,hp⟩ := exists_of_exec_bind hx
      cases hp
      obtain ⟨c,hjudge,hn,hcells,hq⟩ := check_records hc
      exact ⟨rfl,c,hjudge,.addCheck h hn hcells hq⟩
  | replaced v =>
      obtain ⟨x,hd,-,hn⟩ := exec_derive w i v
      have hh := (derive_steady (w.openFrom_scope i) h).of_ok hd
      cases hd.symm.trans hx
      exact ⟨h.lt,hh.2.2,by rw [World.node_push hn,if_neg (Nat.ne_of_lt h.lt)]⟩

/-- A world with the same nodes and cells may come before. -/
theorem Drawn.of_eq {v : World} {o : Outcome} (h : w.Holds i) (hn : v.nodes = w.nodes)
    (hc : v.cells = w.cells) (hq : v.calls = w.calls) (ho : Drawn σ v u i j o) :
    Drawn σ w u i j o := by
  have hnode := World.node_eq_of_nodes_eq hn i
  have hw : w.Continues v i i (w.strand (w.node i)) := .of_eq h hn hc (by simp [hq])
  cases o with
  | verdict passed message rule fields =>
      obtain ⟨hj,c,hjudge,hu⟩ := ho
      rw [hw.strand,hnode] at hu
      rw [World.value,hnode,World.cell_eq_of_cells_eq hc] at hjudge
      exact ⟨hj,c,hjudge,hw.trans hu⟩
  | replaced v => exact ⟨ho.1,ho.2.1,ho.2.2.trans hnode⟩

/-- A step that needs a rule, and does not stop the run, has drawn the outcome of its rule. -/
theorem applyStep_drawn {s : Step} (h : w.Holds i) (hs : s.isIdle = false)
    (hx : (applyStep σ i s).exec w = (.ok j,u)) :
    ∃ r o, σ.registry.get? (String.ofList s.name) = some r ∧
      r.call (w.value i) (Strand.passedOn r.arity s) [] = .ok o ∧ Drawn σ w u i j o := by
  rw [applyStep,if_neg (by simp [hs])] at hx
  obtain ⟨v,hv,hn,hc,hq⟩ := exec_stepArguments σ w (String.ofList s.name) s
  rw [exec_bind_of_ok hv] at hx
  have hhv : v.Holds i :=
    h.extend (.of_eq hn hc (by simp [hq]) : w.Extends (w.scope i) v)
  have hvalue : v.value i = w.value i := by
    rw [World.value,World.value,World.node_eq_of_nodes_eq hn,World.cell_eq_of_cells_eq hc]
  cases hr : σ.registry.get? (String.ofList s.name) with
  | none =>
      rw [apply,applyUnder,if_neg (by simp),hr] at hx
      cases hx
  | some r =>
      rw [Registry.maxArguments_eq,hr] at hx
      rcases apply_cases hr i _ [] v with hrefused | ⟨o,ho,hconclude⟩
      · rw [hx] at hrefused
        obtain ⟨⟨f,hf⟩,-⟩ := hrefused
        cases hf
      · rw [hconclude] at hx
        rw [hvalue] at ho
        exact ⟨r,o,rfl,ho,.of_eq h hn hc hq (conclude_drawn hhv hx)⟩

end Run

end Vetting
