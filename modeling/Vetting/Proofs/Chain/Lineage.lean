import Vetting.Proofs.Chain.Extension

/-!
# Ancestors

The lineage of a node is the node with its ancestors, nearest first. It depends on no
node but these, and its members grow one by one as the world does, so that an invalid
chain cannot become valid.
-/
namespace Vetting

namespace World
variable {S : Scope} {w u : World} {i p : Nat}

/-- A node and one of its children. -/
def ParentOf (w : World) (p i : Nat) : Prop := (w.node i).parent = some p

theorem lineage_of_root (h : (w.node i).parent = none) : w.lineage i = [w.node i] := by
  rw [lineage,h]

theorem lineage_of_parent (hp : (w.node i).parent = some p) (hlt : p < i) :
    w.lineage i = w.node i :: w.lineage p := by
  rw [lineage,hp]
  simp only [hlt,if_true]

/-- Nodes that are made later, or that stand behind a node, are not among its ancestors. -/
theorem lineage_congr (h : ∀ j ≤ i, u.node j = w.node j) : u.lineage i = w.lineage i := by
  -- A parent stands before its children, so the induction is on the place of the node.
  induction i using Nat.strong_induction_on with
  | _ i ih =>
      have hi := h i (Nat.le_refl i)
      rw [lineage,lineage,hi]
      cases (w.node i).parent with
      | none => rfl
      | some p =>
          dsimp only
          split
          · rename_i hlt
            rw [ih p hlt fun j hj => h j (hj.trans hlt.le)]
          · rfl

/-- A node of the lineage is the first or one of the ancestors. -/
theorem lineage_eq_cons (w : World) (i : Nat) :
    w.lineage i = w.node i :: w.ancestors i := by
  rw [ancestors,lineage]
  split
  · rfl
  · split <;> rfl

theorem ancestors_of_root (h : (w.node i).parent = none) : w.ancestors i = [] := by
  rw [ancestors,lineage_of_root h]
  rfl

theorem ancestors_of_parent (hp : (w.node i).parent = some p) (hlt : p < i) :
    w.ancestors i = w.lineage p := by
  rw [ancestors,lineage_of_parent hp hlt]
  rfl

/-- The ancestors of a node grow with it, each into itself. -/
theorem Sound.lineage_grows (hw : w.Sound) (hu : w.Extends S u) (hi : i < w.nodes.size) :
    List.Forall₂ Node.GrowsTo (w.lineage i) (u.lineage i) := by
  induction i using Nat.strong_induction_on with
  | _ i ih =>
      have hg := hu.node_grows i hi
      cases hp : (w.node i).parent with
      | none =>
          rw [lineage_of_root hp,lineage_of_root (hg.parent.trans hp)]
          exact .cons hg .nil
      | some p =>
          have hlt := (hw i hi).parent_lt p hp
          rw [lineage_of_parent hp hlt,lineage_of_parent (hg.parent.trans hp) hlt]
          exact .cons hg (ih p hlt (hlt.trans hi))

theorem Sound.value_lt_of_mem_lineage (hw : w.Sound) (hi : i < w.nodes.size) {n : Node}
    (hn : n ∈ w.lineage i) : n.value < w.cells.size := by
  induction i using Nat.strong_induction_on with
  | _ i ih =>
      have hh := hw i hi
      cases hp : (w.node i).parent with
      | none =>
          rw [lineage_of_root hp,List.mem_singleton] at hn
          rw [hn]
          exact hh.value_lt
      | some p =>
          have hlt := hh.parent_lt p hp
          rw [lineage_of_parent hp hlt] at hn
          rcases List.mem_cons.mp hn with rfl | hn
          · exact hh.value_lt
          · exact ih p hlt (hlt.trans hi) hn

theorem valid_eq_false_iff :
    w.valid i = false ↔ ∀ n ∈ w.lineage i, n.hasErrors = true := by
  simp [valid,Node.isClean]

theorem Sound.valid_antitone (hw : w.Sound) (hu : w.Extends S u) (hi : i < w.nodes.size)
    (hv : w.valid i = false) : u.valid i = false := by
  rw [valid_eq_false_iff] at hv ⊢
  have hg := hw.lineage_grows hu hi
  generalize w.lineage i = ns at hv hg
  generalize u.lineage i = ms at hg
  induction hg with
  | nil => simp
  | cons hnm _ ih =>
      rw [List.forall_mem_cons] at hv ⊢
      exact ⟨hnm.hasErrors hv.1,ih hv.2⟩

theorem Sound.wellFounded_parentOf (hw : w.Sound) : WellFounded w.ParentOf := by
  refine Subrelation.wf ?_ Nat.lt_wfRel.wf
  intro p i hp
  rcases Nat.lt_or_ge i w.nodes.size with hlt | hge
  · exact (hw i hlt).parent_lt p hp
  · have hd : w.node i = default := by simp [node,Array.getD_eq_getD_getElem?,hge]
    rw [ParentOf,hd] at hp
    cases hp

end World

end Vetting
