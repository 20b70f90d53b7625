import Vetting.Chain.Fields

/-!
# What a run does to a world

A run started in a world comes to a result or to a failure, and leaves a world in either
case. `Run.exec` names that pair, and there is one equation for each way of building a
run and for each of the small runs that all others are made of.
-/
namespace Vetting

namespace World

/-- A world in which a node has one check more. -/
def addCheck (w : World) (i : Nat) (c : Check) : World :=
  { w with nodes := w.nodes.modify i fun n => { n with checks := n.checks ++ [c] } }

theorem node_eq_of_nodes_eq {w u : World} (h : u.nodes = w.nodes) (i : Nat) :
    u.node i = w.node i := by
  rw [node,node,h]

theorem cell_eq_of_cells_eq {w u : World} (h : u.cells = w.cells) (c : Nat) :
    u.cell c = w.cell c := by
  rw [cell,cell,h]

theorem node_push {w u : World} {n : Node} (h : u.nodes = w.nodes.push n) (i : Nat) :
    u.node i = if i = w.nodes.size then n else w.node i := by
  simp only [node,h,Array.getD_eq_getD_getElem?,Array.getElem?_push]
  split <;> rfl

theorem cell_push {w u : World} {v : Value} (h : u.cells = w.cells.push v) (c : Nat) :
    u.cell c = if c = w.cells.size then v else w.cell c := by
  simp only [cell,h,Array.getD_eq_getD_getElem?,Array.getElem?_push]
  split <;> rfl

theorem cell_set {w u : World} {c : Nat} {v : Value} (h : u.cells = w.cells.setIfInBounds c v)
    (hc : c < w.cells.size) : u.cell c = v := by
  rw [cell,h,Array.getD_eq_getD_getElem?,Array.getElem?_setIfInBounds,if_pos rfl,if_pos hc]
  rfl

theorem setIfInBounds_cell (w : World) (c : Nat) :
    w.cells.setIfInBounds c (w.cell c) = w.cells := by
  apply Array.ext (by simp)
  intro j _ hj
  rw [Array.getElem_setIfInBounds hj]
  split
  · rename_i hcj
    subst hcj
    rw [cell,Array.getD_eq_getD_getElem?,Array.getElem?_eq_getElem hj]
    rfl
  · rfl

theorem node_addCheck_self {w : World} {i : Nat} (hi : i < w.nodes.size) (c : Check) :
    (w.addCheck i c).node i = { w.node i with checks := (w.node i).checks ++ [c] } := by
  simp only [addCheck,node,Array.getD_eq_getD_getElem?,Array.getElem?_modify]
  simp [hi]

theorem node_addCheck_of_ne {w : World} {i j : Nat} (h : j ≠ i) (c : Check) :
    (w.addCheck i c).node j = w.node j := by
  simp [addCheck,node,Array.getD_eq_getD_getElem?,Array.getElem?_modify,Ne.symm h]

@[simp] theorem size_addCheck (w : World) (i : Nat) (c : Check) :
    (w.addCheck i c).nodes.size = w.nodes.size := by
  simp [addCheck]

end World

namespace Run
variable {α β : Type}

/-- What a run comes to in a world, and the world that it leaves. -/
def exec (x : Run α) (w : World) : Except Failure α × World := x.run.run w

@[simp] theorem exec_pure (a : α) (w : World) : (pure a : Run α).exec w = (.ok a,w) := rfl

@[simp] theorem exec_throw (f : Failure) (w : World) :
    (throw f : Run α).exec w = (.error f,w) := rfl

/-- The second run starts in the world that the first one leaves, and only if that came
to a result. -/
theorem exec_bind (x : Run α) (f : α → Run β) (w : World) :
    (x >>= f).exec w = match x.exec w with
      | (.ok a,u) => (f a).exec u
      | (.error e,u) => (.error e,u) := by
  change (ExceptT.bindCont f (x.exec w).1).run (x.exec w).2 = _
  generalize x.exec w = r
  obtain ⟨a,u⟩ := r
  cases a <;> rfl

theorem exec_bind_of_ok {x : Run α} {w u : World} {a : α} (h : x.exec w = (.ok a,u))
    (f : α → Run β) : (x >>= f).exec w = (f a).exec u := by
  rw [exec_bind,h]

theorem exec_bind_of_error {x : Run α} {w u : World} {e : Failure}
    (h : x.exec w = (.error e,u)) (f : α → Run β) : (x >>= f).exec w = (.error e,u) := by
  rw [exec_bind,h]

/-- Two runs have come to a result one after the other only if each has. -/
theorem exists_of_exec_bind {x : Run α} {f : α → Run β} {w u : World} {b : β}
    (h : (x >>= f).exec w = (.ok b,u)) :
    ∃ a v, x.exec w = (.ok a,v) ∧ (f a).exec v = (.ok b,u) := by
  cases hx : x.exec w with
  | mk r v =>
      cases r with
      | error e =>
          rw [exec_bind_of_error hx] at h
          cases h
      | ok a =>
          rw [exec_bind_of_ok hx] at h
          exact ⟨a,v,rfl,h⟩

theorem exec_bind_congr {x : Run α} {f g : α → Run β} {w : World}
    (h : ∀ a v, x.exec w = (.ok a,v) → (f a).exec v = (g a).exec v) :
    (x >>= f).exec w = (x >>= g).exec w := by
  cases hx : x.exec w with
  | mk r v =>
      cases r with
      | error e => rw [exec_bind_of_error hx,exec_bind_of_error hx]
      | ok a => rw [exec_bind_of_ok hx,exec_bind_of_ok hx,h a v hx]

theorem exec_discard (x : Run α) (w : World) :
    (discard x).exec w = ((x.exec w).1.map fun _ => (),(x.exec w).2) := by
  change ((x >>= fun _ => pure () : Run Unit).exec w) = _
  rw [exec_bind]
  generalize x.exec w = r
  obtain ⟨a,u⟩ := r
  cases a <;> rfl

@[simp] theorem exec_get (w : World) : (get : Run World).exec w = (.ok w,w) := rfl

@[simp] theorem exec_modify (f : World → World) (w : World) :
    (modify f : Run Unit).exec w = (.ok (),f w) := rfl

@[simp] theorem exec_ofExcept (r : Except Failure α) (w : World) :
    (ofExcept r).exec w = (r,w) := by
  cases r <;> rfl

@[simp] theorem exec_ofFault (r : Except Fault α) (w : World) :
    (ofFault r).exec w = (orFail r,w) := exec_ofExcept _ w

theorem exec_ofFault_ok {w : World} {r : Except Fault α} {a : α} (h : r = .ok a) :
    (ofFault r).exec w = (.ok a,w) := by
  rw [h]
  rfl

theorem exec_ofFault_error {w : World} {r : Except Fault α} {f : Fault} (h : r = .error f) :
    (ofFault r).exec w = (.error (.fault f),w) := by
  rw [h]
  rfl

theorem of_exec_ofFault {w u : World} {r : Except Fault α} {a : α}
    (h : (ofFault r).exec w = (.ok a,u)) : r = .ok a ∧ w = u := by
  rw [exec_ofFault] at h
  obtain ⟨hr,rfl⟩ := Prod.mk.inj h
  cases r with
  | error f => cases hr
  | ok b =>
      cases hr
      exact ⟨rfl,rfl⟩

@[simp] theorem exec_log (l : Level) (m : String) (w : World) :
    (log l m).exec w = (.ok (),{ w with records := w.records.push ⟨l,w.mark,m⟩ }) := rfl

@[simp] theorem exec_store (v : Value) (w : World) :
    (store v).exec w = (.ok w.cells.size,{ w with cells := w.cells.push v }) := rfl

@[simp] theorem exec_addNode (n : Node) (w : World) :
    (addNode n).exec w = (.ok w.nodes.size,{ w with nodes := w.nodes.push n }) := rfl

@[simp] theorem exec_addCheck (i : Nat) (c : Check) (w : World) :
    (addCheck i c).exec w = (.ok (),w.addCheck i c) := rfl

@[simp] theorem exec_nodeAt (i : Nat) (w : World) :
    (nodeAt i).exec w = (.ok (w.node i),w) := rfl

@[simp] theorem exec_translate (σ : Setting) (key : Value) (context : Named Value)
    (w : World) :
    (translate σ key context).exec w =
      (orFail (σ.translator.translate key context),
        { w with calls := w.calls.push ⟨key,context⟩ }) := by
  rw [translate,exec_bind,exec_modify]
  exact exec_ofFault _ _

theorem exec_validate_of_valid {σ : Setting} {w : World} {i : Nat} (h : w.valid i = true) :
    (validate σ i).exec w = (.ok i,w) := by
  unfold validate
  rw [exec_bind_of_ok (exec_get w)]
  dsimp only
  rw [if_pos h]
  rfl

/-- A chain that passes is valid, and nothing has happened to it. -/
theorem validate_of_ok {σ : Setting} {w u : World} {i j : Nat}
    (h : (validate σ i).exec w = (.ok j,u)) : w.valid i = true ∧ u = w := by
  cases hv : w.valid i with
  | true =>
      rw [exec_validate_of_valid hv] at h
      cases h
      exact ⟨rfl,rfl⟩
  | false =>
      rw [validate,exec_bind_of_ok (exec_get w)] at h
      dsimp only at h
      rw [if_neg (by rw [hv]; exact Bool.false_ne_true)] at h
      obtain ⟨_,v,-,h⟩ := exists_of_exec_bind h
      obtain ⟨_,x,-,h⟩ := exists_of_exec_bind h
      cases h

end Run

end Vetting
