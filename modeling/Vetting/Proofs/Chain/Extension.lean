import Mathlib.Data.List.Forall2
import Mathlib.Order.Nat
import Vetting.Proofs.Chain.Exec

/-!
# How a world grows

Whatever is done to a node, the world only gets larger: nodes and cells are added, further
messages are asked for, and a node that is there already gains checks and nothing else.
Which nodes may gain checks,
and which cells may get a new content, is the scope of a run. The relation is reflexive
and transitive, so that it has to be shown for the smallest runs only, and it says the
same of a run that fails half way.
-/
namespace Vetting

/-- Everything in a node stays but its checks, which are only added to at the end. -/
structure Node.GrowsTo (n m : Node) : Prop where
  value : m.value = n.value
  initial : m.initial = n.initial
  field : m.field = n.field
  sensitive : m.sensitive = n.sensitive
  parent : m.parent = n.parent
  checks : n.checks <+: m.checks

theorem Node.GrowsTo.refl (n : Node) : n.GrowsTo n :=
  ⟨rfl,rfl,rfl,rfl,rfl,List.prefix_rfl⟩

theorem Node.GrowsTo.trans {n m k : Node} (h : n.GrowsTo m) (h' : m.GrowsTo k) :
    n.GrowsTo k :=
  ⟨h'.value.trans h.value,h'.initial.trans h.initial,h'.field.trans h.field,
    h'.sensitive.trans h.sensitive,h'.parent.trans h.parent,h.checks.trans h'.checks⟩

/-- A node with errors keeps them. -/
theorem Node.GrowsTo.hasErrors {n m : Node} (h : n.GrowsTo m) (he : n.hasErrors = true) :
    m.hasErrors = true := by
  obtain ⟨more,hm⟩ := h.checks
  rw [Node.hasErrors,List.any_eq_true] at he ⊢
  obtain ⟨c,hc,hf⟩ := he
  exact ⟨c,by rw [← hm]; exact List.mem_append_left more hc,hf⟩

/-- The nodes that may gain checks and the cells that may be written to. -/
structure Scope where
  node : Nat → Prop
  cell : Nat → Prop

namespace Scope

/-- Every node that is made from now on may gain checks. -/
def OpenFrom (S : Scope) (n : Nat) : Prop := ∀ j, n ≤ j → S.node j

theorem OpenFrom.mono {S : Scope} {n m : Nat} (h : S.OpenFrom n) (hnm : n ≤ m) :
    S.OpenFrom m :=
  fun j hj => h j (hnm.trans hj)

/-- Everything may gain checks or be written to. -/
def all : Scope := ⟨fun _ => True,fun _ => True⟩

theorem openFrom_all (n : Nat) : all.OpenFrom n := fun _ _ => trivial

end Scope

namespace World

/-- What belongs to a node: itself and the nodes that are still to be made, but no cell. -/
def scope (w : World) (i : Nat) : Scope := ⟨fun j => j = i ∨ w.nodes.size ≤ j,fun _ => False⟩

theorem openFrom_scope (w : World) (i : Nat) : (w.scope i).OpenFrom w.nodes.size :=
  fun _ hj => Or.inr hj

theorem scope_self (w : World) (i : Nat) : (w.scope i).node i := Or.inl rfl

/-- A node is there, its parent before it, and so are the cells that it refers to. -/
structure Holds (w : World) (i : Nat) : Prop where
  lt : i < w.nodes.size
  parent_lt : ∀ p, (w.node i).parent = some p → p < i
  value_lt : (w.node i).value < w.cells.size
  initial_lt : (w.node i).initial < w.cells.size

/-- A world in which all nodes are in order. -/
def Sound (w : World) : Prop := ∀ i < w.nodes.size, w.Holds i

theorem sound_empty : World.empty.Sound := by
  intro i hi
  simp [World.empty] at hi

structure Extends (S : Scope) (w u : World) : Prop where
  nodes_le : w.nodes.size ≤ u.nodes.size
  cells_le : w.cells.size ≤ u.cells.size
  node_grows : ∀ i < w.nodes.size, (w.node i).GrowsTo (u.node i)
  node_eq : ∀ i < w.nodes.size, ¬ S.node i → u.node i = w.node i
  cell_eq : ∀ c < w.cells.size, ¬ S.cell c → u.cell c = w.cell c
  holds_new : ∀ i, w.nodes.size ≤ i → i < u.nodes.size → u.Holds i
  calls_prefix : w.calls.toList <+: u.calls.toList

variable {S : Scope} {w u v : World} {i : Nat}

theorem Holds.extend (h : w.Holds i) (hu : w.Extends S u) : u.Holds i := by
  have hg := hu.node_grows i h.lt
  refine ⟨h.lt.trans_le hu.nodes_le,?_,?_,?_⟩
  · intro p hp
    exact h.parent_lt p (hg.parent ▸ hp)
  · rw [hg.value]
    exact h.value_lt.trans_le hu.cells_le
  · rw [hg.initial]
    exact h.initial_lt.trans_le hu.cells_le

theorem Sound.extend (h : w.Sound) (hu : w.Extends S u) : u.Sound := by
  intro i hi
  rcases Nat.lt_or_ge i w.nodes.size with hlt | hge
  · exact (h i hlt).extend hu
  · exact hu.holds_new i hge hi

namespace Extends

theorem refl (S : Scope) (w : World) : w.Extends S w :=
  ⟨Nat.le_refl _,Nat.le_refl _,fun _ _ => .refl _,fun _ _ _ => rfl,fun _ _ _ => rfl,
    fun _ h h' => absurd h' (Nat.not_lt.mpr h),List.prefix_rfl⟩

theorem trans (h : w.Extends S u) (h' : u.Extends S v) : w.Extends S v := by
  refine ⟨h.nodes_le.trans h'.nodes_le,h.cells_le.trans h'.cells_le,?_,?_,?_,?_,
    h.calls_prefix.trans h'.calls_prefix⟩
  · intro i hi
    exact (h.node_grows i hi).trans (h'.node_grows i (hi.trans_le h.nodes_le))
  · intro i hi hs
    exact (h'.node_eq i (hi.trans_le h.nodes_le) hs).trans (h.node_eq i hi hs)
  · intro c hc hs
    exact (h'.cell_eq c (hc.trans_le h.cells_le) hs).trans (h.cell_eq c hc hs)
  · intro i hi hv
    rcases Nat.lt_or_ge i u.nodes.size with hlt | hge
    · exact (h.holds_new i hi hlt).extend h'
    · exact h'.holds_new i hge hv

/-- A larger scope allows more. -/
theorem mono {T : Scope} (hn : ∀ i, S.node i → T.node i) (hc : ∀ c, S.cell c → T.cell c)
    (h : w.Extends S u) : w.Extends T u :=
  ⟨h.nodes_le,h.cells_le,h.node_grows,fun i hi ht => h.node_eq i hi fun hs => ht (hn i hs),
    fun c hlt ht => h.cell_eq c hlt fun hs => ht (hc c hs),h.holds_new,h.calls_prefix⟩

/-- Messages asked for, records and the mark do not belong to nodes. -/
theorem of_eq (hn : u.nodes = w.nodes) (hc : u.cells = w.cells)
    (hq : w.calls.toList <+: u.calls.toList) : w.Extends S u := by
  have he := node_eq_of_nodes_eq hn
  refine ⟨by rw [hn],by rw [hc],?_,fun i _ _ => he i,fun c _ _ => cell_eq_of_cells_eq hc c,?_,
    hq⟩
  · intro i _
    rw [he i]
    exact .refl _
  · intro i hi hu
    rw [hn] at hu
    exact absurd hu (Nat.not_lt.mpr hi)

theorem addCheck (hi : S.node i) (c : Check) : w.Extends S (w.addCheck i c) := by
  refine ⟨by simp,Nat.le_refl _,?_,?_,fun _ _ _ => rfl,?_,List.prefix_rfl⟩
  · intro j hj
    rcases eq_or_ne j i with rfl | hne
    · rw [node_addCheck_self hj]
      exact ⟨rfl,rfl,rfl,rfl,rfl,List.prefix_append _ _⟩
    · rw [node_addCheck_of_ne hne]
      exact .refl _
  · intro j _ hs
    have hne : j ≠ i := by
      rintro rfl
      exact hs hi
    exact node_addCheck_of_ne hne c
  · intro j hj hu
    simp only [size_addCheck] at hu
    exact absurd hu (Nat.not_lt.mpr hj)

theorem pushCell {x : Value} (hn : u.nodes = w.nodes) (hc : u.cells = w.cells.push x)
    (hq : u.calls = w.calls) : w.Extends S u := by
  have he := node_eq_of_nodes_eq hn
  refine ⟨by rw [hn],by simp [hc],?_,fun i _ _ => he i,?_,?_,by simp [hq]⟩
  · intro i _
    rw [he i]
    exact .refl _
  · intro c hlt _
    rw [cell_push hc,if_neg (Nat.ne_of_lt hlt)]
  · intro i hi hu
    rw [hn] at hu
    exact absurd hu (Nat.not_lt.mpr hi)

/-- A new node may have any node that is there already as its parent. -/
theorem pushNode {n : Node} (hn : u.nodes = w.nodes.push n) (hc : u.cells = w.cells)
    (hq : u.calls = w.calls) (hp : ∀ p, n.parent = some p → p < w.nodes.size)
    (hv : n.value < w.cells.size) (hi : n.initial < w.cells.size) : w.Extends S u := by
  have hs : u.nodes.size = w.nodes.size+1 := by rw [hn,Array.size_push]
  have ho : ∀ i < w.nodes.size, u.node i = w.node i := fun i hlt => by
    rw [node_push hn,if_neg (Nat.ne_of_lt hlt)]
  refine ⟨by omega,by rw [hc],?_,fun i hlt _ => ho i hlt,
    fun c _ _ => cell_eq_of_cells_eq hc c,?_,by simp [hq]⟩
  · intro i hlt
    rw [ho i hlt]
    exact .refl _
  · intro i hge hlt
    have he : i = w.nodes.size := by omega
    have hnew : u.node i = n := by rw [node_push hn,if_pos he]
    refine ⟨hlt,?_,?_,?_⟩
    · intro p h
      rw [hnew] at h
      exact he ▸ hp p h
    · rw [hnew,hc]
      exact hv
    · rw [hnew,hc]
      exact hi

/-- The cell of a container that is written to keeps its place. -/
theorem setCell {c : Nat} {x : Value} (hS : S.cell c) (hn : u.nodes = w.nodes)
    (hc : u.cells = w.cells.setIfInBounds c x) (hq : u.calls = w.calls) :
    w.Extends S u := by
  have he := node_eq_of_nodes_eq hn
  refine ⟨by rw [hn],by simp [hc],?_,fun i _ _ => he i,?_,?_,by simp [hq]⟩
  · intro i _
    rw [he i]
    exact .refl _
  · intro d _ hs
    have hne : c ≠ d := fun hcd => hs (hcd ▸ hS)
    simp only [cell,hc,Array.getD_eq_getD_getElem?,Array.getElem?_setIfInBounds,if_neg hne]
  · intro i hi hu
    rw [hn] at hu
    exact absurd hu (Nat.not_lt.mpr hi)

end Extends

end World

end Vetting
