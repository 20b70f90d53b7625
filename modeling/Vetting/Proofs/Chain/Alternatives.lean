import Vetting.Proofs.Chain.Lineage
import Vetting.Proofs.Chain.Strand

/-!
# Alternatives

An alternative is run on the node that it is given, and the next one on a new node that
has the former as its parent and starts from the first value again. So the chain that an
expression leaves is a stack of strands, the last alternative on top, each of which is
what its alternative comes to by itself. All that is asked of the chain, whether it is
valid, its value and its errors, is read off that stack.
-/
namespace Vetting

/-- The node at which an alternative to a node starts. -/
def Node.forked (n : Node) (i : Nat) : Node :=
  { n with value := n.initial, parent := some i, checks := [] }

namespace World
variable {S : Scope} {w u v x : World} {i j k l : Nat} {b : Strand} {rs ts : List Strand}

/-- Strands of nodes that are there do not change unless cells are written to. -/
theorem strand_extend (hu : w.Extends S u) (hS : ∀ c, ¬ S.cell c) {n : Node}
    (hn : n.value < w.cells.size) : u.strand n = w.strand n := by
  rw [strand,strand,hu.cell_eq _ hn (hS _)]

/-- The chain of a node of a later world consists of strands, the last one on top, over
the ancestors of a node of an earlier one. -/
structure Stacks (w u : World) (i j : Nat) (rs : List Strand) : Prop where
  world : w.Extends (w.scope i) u
  holds : u.Holds j
  scope : (w.scope i).node j
  heading : (u.node j).heading = (w.node i).heading
  initial : (u.node j).initial = (w.node i).initial
  lineage : ∃ ns, u.lineage j = ns ++ w.ancestors i ∧ ns.map u.strand = rs.reverse ∧
    ∀ n ∈ ns, n.value < u.cells.size ∧ n.initial = (w.node i).initial

/-- What goes on from a node has the ancestors of the node. -/
theorem Continues.stacks (hi : w.Holds i) (h : w.Continues u i j b) :
    w.Stacks u i j [b] := by
  refine ⟨h.world,h.holds,h.scope,h.heading,h.initial,[u.node j],?_,?_,?_⟩
  · rw [lineage_eq_cons,List.singleton_append]
    congr 1
    cases hp : (w.node i).parent with
    | none => rw [ancestors_of_root hp,ancestors_of_root (h.parent.trans hp)]
    | some p =>
        have hlt := hi.parent_lt p hp
        have hpu := h.parent.trans hp
        rw [ancestors_of_parent hp hlt,ancestors_of_parent hpu (h.holds.parent_lt p hpu)]
        apply lineage_congr
        intro k hk
        refine h.world.node_eq k ((hk.trans_lt hlt).trans hi.lt) ?_
        rintro (rfl | hge)
        · exact absurd hlt (Nat.not_lt.mpr hk)
        · exact absurd hge (Nat.not_le.mpr ((hk.trans_lt hlt).trans hi.lt))
  · rw [List.map_singleton,h.strand]
    rfl
  · intro n hn
    rw [List.mem_singleton.mp hn]
    exact ⟨h.holds.value_lt,h.initial⟩

/-- A chain at its beginning: the value is the first one, and nothing has been checked. -/
structure Fresh (w : World) (i : Nat) (h : Heading) (x : Value) : Prop where
  holds : w.Holds i
  heading : (w.node i).heading = h
  initial : w.initial i = x
  strand : w.strand (w.node i) = .start x

theorem Fresh.of_push {n : Node} {x : Value} (h : u.Holds w.nodes.size)
    (hn : u.nodes = w.nodes.push n) (hc : u.cells = w.cells.push x)
    (hv : n.value = w.cells.size) (hi : n.initial = w.cells.size) (hk : n.checks = []) :
    u.Fresh w.nodes.size n.heading x := by
  have he : u.node w.nodes.size = n := by rw [node_push hn,if_pos rfl]
  have hx : u.cell w.cells.size = x := by rw [cell_push hc,if_pos rfl]
  refine ⟨h,by rw [he],?_,?_⟩
  · rw [World.initial,he,hi,hx]
  · rw [he,World.strand,hv,hi,hk,hx,bne_self_eq_false]
    rfl

/-- An alternative begins where the chain began, without checks, over the whole chain. -/
structure Forks (w u : World) (i j : Nat) : Prop where
  world : w.Extends (w.scope i) u
  new : w.nodes.size ≤ j
  fresh : u.Fresh j (w.node i).heading (w.initial i)
  initial : (u.node j).initial = (w.node i).initial
  ancestors : u.ancestors j = w.lineage i

namespace Stacks

/-- A stack over an alternative that was started over a stack is the larger of the two
stacks put on the smaller one. -/
theorem append (h : w.Stacks u i j rs) (hf : u.Forks v j k) (h' : v.Stacks x k l ts) :
    w.Stacks x i l (rs ++ ts) := by
  have hk : (w.scope i).node k := Or.inr (h.world.nodes_le.trans hf.new)
  have hv : w.Extends (w.scope i) v :=
    h.world.trans (hf.world.mono (fun _ => scope_mono h.world.nodes_le h.scope) fun _ => id)
  have hs : ∀ m, (v.scope k).node m → (w.scope i).node m :=
    fun m => scope_mono hv.nodes_le hk
  have hux : u.Extends (u.scope j) x :=
    hf.world.trans (h'.world.mono (fun _ => scope_mono hf.world.nodes_le (Or.inr hf.new))
      fun _ => id)
  obtain ⟨ns,hns,hrs,hin⟩ := h.lineage
  obtain ⟨ms,hms,hts,him⟩ := h'.lineage
  -- No cell is written to above the fork, so the strands below it stay what they are.
  refine ⟨hv.trans (h'.world.mono hs fun _ => id),h'.holds,hs l h'.scope,?_,?_,
    ms ++ ns,?_,?_,?_⟩
  · exact h'.heading.trans (hf.fresh.heading.trans h.heading)
  · exact h'.initial.trans (hf.initial.trans h.initial)
  · rw [hms,hf.ancestors,hns,List.append_assoc]
  · have he : ns.map x.strand = ns.map u.strand :=
      List.map_congr_left fun n hn => strand_extend hux (fun _ => id) (hin n hn).1
    rw [List.map_append,hts,he,hrs,List.reverse_append]
  · intro n hn
    rcases List.mem_append.mp hn with hm | hn
    · exact ⟨(him n hm).1,(him n hm).2.trans (hf.initial.trans h.initial)⟩
    · exact ⟨(hin n hn).1.trans_le hux.cells_le,(hin n hn).2⟩

/-- The node itself is on top of the stack. -/
theorem strand_of_singleton (h : w.Stacks u i j [b]) : u.strand (u.node j) = b := by
  obtain ⟨ns,hns,hrs,-⟩ := h.lineage
  cases ns with
  | nil => cases hrs
  | cons n more =>
      rw [lineage_eq_cons,List.cons_append] at hns
      rw [List.map_cons] at hrs
      rw [(List.cons.inj hns).1]
      exact (List.cons.inj hrs).1

end Stacks

/-- An alternative to a chain is as fresh as the chain was when it began. -/
theorem Fresh.after_fork {h : Heading} {y : Value} (hi : w.Fresh i h y)
    (hs : w.Stacks u i j rs) (hf : u.Forks v j k) : v.Fresh k h y := by
  have hx := hf.fresh
  have hy : u.initial j = y := by
    rw [World.initial,hs.initial,hs.world.cell_eq _ hi.holds.initial_lt id]
    exact hi.initial
  rw [hs.heading,hi.heading,hy] at hx
  exact hx

end World

namespace Run
variable {α β γ : Type} {σ : Setting} {w : World} {i : Nat}

theorem exec_fork (w : World) (i : Nat) :
    ∃ u, (fork i).exec w = (.ok w.nodes.size,u) ∧ u.cells = w.cells ∧
      u.nodes = w.nodes.push ((w.node i).forked i) :=
  ⟨_,rfl,rfl,rfl⟩

theorem fork_forks (h : w.Holds i) :
    ∃ j u, (fork i).exec w = (.ok j,u) ∧ w.Forks u i j := by
  obtain ⟨u,hx,-,hn⟩ := exec_fork w i
  obtain ⟨hw,-,hh⟩ := (fork_steady (w.openFrom_scope i) h).of_ok hx
  have he : u.node w.nodes.size = (w.node i).forked i := by
    rw [World.node_push hn,if_pos rfl]
  have hin : u.cell (w.node i).initial = w.initial i := hw.cell_eq _ h.initial_lt id
  refine ⟨_,u,hx,hw,Nat.le_refl _,⟨hh,?_,?_,?_⟩,?_,?_⟩
  · rw [he]
    rfl
  · rw [World.initial,he]
    exact hin
  · rw [he,World.strand,Node.forked,bne_self_eq_false,hin]
    rfl
  · rw [he]
    rfl
  · rw [World.ancestors_of_parent (by rw [he]; rfl) h.lt]
    apply World.lineage_congr
    intro k hk
    rw [World.node_push hn,if_neg (Nat.ne_of_lt (hk.trans_lt h.lt))]

namespace Follows

/-- What is computed from a result goes with what the run comes to. -/
theorem map {x : Run α} {r : Except Failure β} {g : β → γ} {P : β → α → World → Prop}
    {Q : γ → α → World → Prop} (hx : Follows w x r P)
    (h : ∀ b a u, P b a u → Q (g b) a u) :
    Follows w x (r >>= fun b => .ok (g b)) Q := by
  cases r with
  | error f => exact hx
  | ok b =>
      obtain ⟨a,u,he,hp⟩ := hx
      exact ⟨a,u,he,h b a u hp⟩

theorem of_ok {x : Run α} {r : Except Failure β} {Q : β → α → World → Prop} {a : α}
    {u : World} (hx : Follows w x r Q) (h : x.exec w = (.ok a,u)) :
    ∃ b, r = .ok b ∧ Q b a u := by
  cases r with
  | error f =>
      have he : (x.exec w).1 = .error f := hx
      rw [h] at he
      cases he
  | ok b =>
      obtain ⟨a',u',he,hq⟩ := hx
      obtain ⟨ha,rfl⟩ := Prod.mk.inj (h.symm.trans he)
      cases ha
      exact ⟨b,rfl,hq⟩

end Follows

/-- Alternatives leave the strands that they come to by themselves, the last on top. -/
theorem applyAlternatives_follows (hσ : σ.throwEarly = false) {h : Heading} {x : Value}
    (hi : w.Fresh i h x) {as : List Alternative} (hne : as ≠ []) :
    Follows w (applyAlternatives σ i as) (as.mapM (Strand.group σ h x))
      fun rs j u => w.Stacks u i j rs := by
  induction as generalizing i w with
  | nil => exact absurd rfl hne
  | cons a rest ih =>
      have ha := steps_follows hσ hi.holds a
      rw [hi.strand,hi.heading] at ha
      rw [List.mapM_cons,applyAlternatives]
      refine .bind ha ?_
      intro b j u _ hj
      have hb := hj.stacks hi.holds
      cases rest with
      | nil => exact .ok (exec_pure j u) hb
      | cons next more =>
          obtain ⟨k,v,he,hk⟩ := fork_forks hj.holds
          have hf := hi.after_fork hb hk
          refine .of_bind he (.map (ih hf (List.cons_ne_nil next more)) ?_)
          intro ts l y hl
          exact hb.append hk hl

end Run

end Vetting
