import Vetting.Proofs.Chain.Alternatives
import Vetting.Rules.Standard

/-!
# The meaning of an expression

On a fresh chain, an expression means what its alternatives mean as expressions by
themselves, each on a fresh chain of its own. The chain is valid if one of them is clean,
its value is that of the last clean one, and its errors are those of all, the last ones
first. The failure of an alternative is that of the expression.
-/
namespace Vetting

namespace Strand

/-- The last strand without errors. -/
def lastClean? (rs : List Strand) : Option Strand := rs.reverse.find? isClean

/-- All errors of strands, the last ones first. -/
def allErrors (rs : List Strand) : List String := rs.reverse.flatMap errors

/-- What the alternatives of an expression come to; one without any passes. -/
def strands (σ : Setting) (h : Heading) (v : Value) (source : String) :
    Except Failure (List Strand) :=
  match Expression.parse source.toList with
  | [] => .ok [start v]
  | as => as.mapM (group σ h v)

end Strand

namespace World
variable {w u v : World} {i j : Nat} {rs : List Strand}

theorem valid_eq (w : World) (i : Nat) :
    w.valid i = ((w.lineage i).map w.strand).any Strand.isClean := by
  rw [List.any_map]
  rfl

theorem get_eq (w : World) (i : Nat) :
    w.get i = ((((w.lineage i).map w.strand).find? Strand.isClean).map Strand.value).getD
      .null := by
  rw [get,result?,List.find?_map,Option.map_map,Option.map_map]
  rfl

theorem errors_eq (w : World) (i : Nat) :
    w.errors i =
      if w.valid i then [] else ((w.lineage i).map w.strand).flatMap Strand.errors := by
  rw [errors,List.flatMap_map]
  rfl

theorem Stacks.of_eq (h : w.Stacks u i j rs) (hn : v.nodes = u.nodes)
    (hc : v.cells = u.cells) (hq : u.calls.toList <+: v.calls.toList) :
    w.Stacks v i j rs := by
  have hu : ∀ {S : Scope}, u.Extends S v := .of_eq hn hc hq
  have he := node_eq_of_nodes_eq hn
  obtain ⟨ns,hns,hrs,hin⟩ := h.lineage
  refine ⟨h.world.trans hu,h.holds.extend (hu (S := .all)),h.scope,?_,?_,ns,?_,?_,?_⟩
  · rw [he,h.heading]
  · rw [he,h.initial]
  · rw [lineage_congr fun k _ => he k,hns]
  · rw [← hrs]
    refine List.map_congr_left fun n _ => ?_
    rw [World.strand,World.strand,cell_eq_of_cells_eq hc]
  · intro n hn
    rw [hc]
    exact hin n hn

/-- The strands of a chain that begins with a node without a parent. -/
theorem Stacks.lineage_of_root (h : w.Stacks u i j rs) (hp : (w.node i).parent = none) :
    (u.lineage j).map u.strand = rs.reverse := by
  obtain ⟨ns,hns,hrs,-⟩ := h.lineage
  rw [hns,ancestors_of_root hp,List.append_nil,hrs]

end World

namespace Run
variable {σ : Setting} {w u : World} {i j : Nat} {h : Heading} {v : Value}
  {source : String} {field : Option String} {sensitive : Bool}

theorem rules_follows (hσ : σ.throwEarly = false) (hi : w.Fresh i h v) (source : String) :
    Follows w (rules σ i source) (Strand.strands σ h v source)
      fun rs j u => w.Stacks u i j rs := by
  have ha : Follows w (applyAlternatives σ i (Expression.parse source.toList))
      (Strand.strands σ h v source) fun rs j u => w.Stacks u i j rs := by
    unfold Strand.strands
    split
    · rename_i hp
      rw [hp]
      refine .ok (exec_pure i w) ?_
      rw [← hi.strand]
      exact (World.Continues.refl hi.holds).stacks hi.holds
    · rename_i hne
      exact applyAlternatives_follows hσ hi hne
  unfold rules
  cases hr : Strand.strands σ h v source with
  | error f =>
      rw [hr] at ha
      exact .error (exec_bind_of_error (Prod.ext ha rfl) _)
  | ok rs =>
      rw [hr] at ha
      obtain ⟨j,u,he,hj⟩ := ha
      exact .of_bind he (.ok rfl (hj.of_eq rfl rfl List.prefix_rfl))

/-- An expression without alternatives leaves a node as it is. -/
theorem exec_rules_of_blank (hp : Expression.parse source.toList = []) :
    ∃ u, (rules σ i source).exec w = (.ok i,u) ∧ u.nodes = w.nodes ∧ u.cells = w.cells := by
  unfold rules
  rw [hp]
  exact ⟨_,rfl,rfl,rfl⟩

theorem exec_seed (v : Value) (field : Option String) (sensitive : Bool) (w : World) :
    ∃ u, (seed v field sensitive).exec w = (.ok w.nodes.size,u) ∧
      u.cells = w.cells.push v ∧
      u.nodes = w.nodes.push ⟨w.cells.size,w.cells.size,field,sensitive,none,[]⟩ :=
  ⟨_,rfl,rfl,rfl⟩

theorem seed_fresh (hs : (seed v field sensitive).exec w = (.ok i,u)) :
    u.Fresh i ⟨field,sensitive⟩ v ∧ (u.node i).parent = none := by
  obtain ⟨-,-,hh⟩ := (seedOn_steady (Scope.openFrom_all w.nodes.size)).of_ok hs
  obtain ⟨x,hx,hc,hn⟩ := exec_seed v field sensitive w
  obtain ⟨hi,rfl⟩ := Prod.mk.inj (hs.symm.trans hx)
  cases hi
  refine ⟨.of_push hh hn hc rfl rfl rfl,?_⟩
  rw [World.node_push hn,if_pos rfl]

/-- What an expression by itself comes to on a fresh chain. -/
def alone (σ : Setting) (v : Value) (field : Option String) (sensitive : Bool)
    (source : String) : Except Failure Strand :=
  let x : Run Nat := do rules σ (← seed v field sensitive) source
  let r := x.exec .empty
  r.1.map fun j => r.2.strand (r.2.node j)

theorem alone_eq (hσ : σ.throwEarly = false) {a : Alternative}
    (hp : Expression.parse source.toList = [a]) :
    alone σ v field sensitive source = Strand.group σ ⟨field,sensitive⟩ v a := by
  obtain ⟨u,hs,-⟩ := exec_seed v field sensitive .empty
  have hr := rules_follows hσ (seed_fresh hs).1 source
  have ha : Strand.strands σ ⟨field,sensitive⟩ v source =
      Strand.group σ ⟨field,sensitive⟩ v a >>= fun b => .ok [b] := by
    rw [Strand.strands,hp]
    exact List.mapM_cons
  rw [ha] at hr
  rw [alone,exec_bind_of_ok hs]
  cases hg : Strand.group σ ⟨field,sensitive⟩ v a with
  | error f =>
      rw [hg] at hr
      have he : ((rules σ _ source).exec _).1 = .error f := hr
      rw [he]
      rfl
  | ok b =>
      rw [hg] at hr
      obtain ⟨j,u,he,hj⟩ := hr
      rw [he]
      exact congrArg Except.ok hj.strand_of_singleton

/-- The texts of the alternatives of an expression. -/
def alternativeTexts (source : String) : List String :=
  (Expression.segments source.toList).map String.ofList

/-- What the alternatives of an expression come to, each by itself on a value. An
expression without any passes. -/
def outcomes (σ : Setting) (v : Value) (field : Option String) (sensitive : Bool)
    (source : String) : Except Failure (List Strand) :=
  match alternativeTexts source with
  | [] => .ok [.start v]
  | gs => gs.mapM (alone σ v field sensitive)

/-- The alternatives of an expression do not depend on each other. -/
theorem outcomes_eq_strands (hσ : σ.throwEarly = false) :
    outcomes σ v field sensitive source = Strand.strands σ ⟨field,sensitive⟩ v source := by
  have hg : ∀ gs ⊆ Expression.segments source.toList,
      (gs.map String.ofList).mapM (alone σ v field sensitive) =
        (gs.map Expression.parseAlternative).mapM (Strand.group σ ⟨field,sensitive⟩ v) := by
    intro gs hgs
    induction gs with
    | nil => rfl
    | cons g rest ih =>
        obtain ⟨hg,hrest⟩ := List.cons_subset.mp hgs
        have hp : Expression.parse (String.ofList g).toList =
            [Expression.parseAlternative g] := by
          rw [String.toList_ofList]
          exact Expression.parse_segment hg
        simp only [List.map_cons,List.mapM_cons,alone_eq hσ hp,ih hrest]
  rw [outcomes,alternativeTexts,Strand.strands,Expression.parse]
  cases hs : Expression.segments source.toList with
  | nil => rfl
  | cons g rest => exact hg (g :: rest) (by rw [hs]; exact List.Subset.refl _)

/-- An expression without alternatives leaves a fresh chain as it is. The chain that any
other one comes to consists of what its alternatives come to by themselves, each on the
value that the chain began with. The registry may be any one of rules that give a verdict or
a new value. -/
theorem rules_on_fresh_chain (hσ : σ.throwEarly = false) {w₁ w₂ : World}
    (hs : (seed v field sensitive).exec w = (.ok i,w₁))
    (hr : (rules σ i source).exec w₁ = (.ok j,w₂)) :
    if alternativeTexts source = [] then
      j = i ∧ w₂.nodes = w₁.nodes ∧ w₂.cells = w₁.cells
    else ∃ rs, (alternativeTexts source).mapM (alone σ v field sensitive) = .ok rs ∧
      (w₂.valid j = true ↔ ∃ r ∈ rs, r.isClean = true) ∧
      w₂.get j = ((Strand.lastClean? rs).map Strand.value).getD .null ∧
      w₂.errors j = (if w₂.valid j then [] else Strand.allErrors rs) ∧
      (w₂.lineage j).map w₂.strand = rs.reverse ∧
      ∀ n ∈ w₂.lineage j, w₂.cell n.initial = v := by
  obtain ⟨hi,hp⟩ := seed_fresh hs
  split
  · rename_i hblank
    have hb : Expression.parse source.toList = [] := by
      rw [Expression.parse,List.map_eq_nil_iff.mp hblank,List.map_nil]
    obtain ⟨u,he,hn,hc⟩ := exec_rules_of_blank (σ := σ) (w := w₁) (i := i) hb
    obtain ⟨hj,rfl⟩ := Prod.mk.inj (hr.symm.trans he)
    exact ⟨Except.ok.inj hj,hn,hc⟩
  · rename_i hne
    obtain ⟨rs,hrs,hj⟩ := (rules_follows hσ hi source).of_ok hr
    have hl := hj.lineage_of_root hp
    refine ⟨rs,?_,?_,?_,?_,hl,?_⟩
    · rw [← hrs,← outcomes_eq_strands hσ,outcomes]
      split
      · rename_i hnil
        exact absurd hnil hne
      · rfl
    · rw [World.valid_eq,hl,List.any_reverse,List.any_eq_true]
    · rw [World.get_eq,hl]
      rfl
    · rw [World.errors_eq,hl]
      rfl
    · intro n hn
      obtain ⟨ns,hns,-,hin⟩ := hj.lineage
      rw [hns,World.ancestors_of_root hp,List.append_nil] at hn
      rw [(hin n hn).2,hj.world.cell_eq _ hi.holds.initial_lt id]
      exact hi.initial

set_option maxRecDepth 10000 in
/-- A text with blanks around it is not null, and the second alternative trims it. -/
theorem rules_on_fresh_chain_trimmed :
    let σ : Setting := ⟨Rules.standard .none,.silent,false⟩
    let w₁ := ((seed (.text " x ") none false).exec .empty).2
    let w₂ := ((rules σ 0 "null|asTrim").exec w₁).2
    (rules σ 0 "null|asTrim").exec w₁ = (.ok 2,w₂) ∧
      ∃ rs, (alternativeTexts "null|asTrim").mapM (alone σ (.text " x ") none false) =
          .ok rs ∧
        w₂.get 2 = ((Strand.lastClean? rs).map Strand.value).getD .null := by
  intro σ w₁ w₂
  have hs : (seed (.text " x ") none false).exec .empty = (.ok 0,w₁) := rfl
  have hr : (rules σ 0 "null|asTrim").exec w₁ = (.ok 2,w₂) := Prod.ext rfl rfl
  have hm := rules_on_fresh_chain (σ := σ) rfl hs hr
  rw [if_neg (by decide)] at hm
  obtain ⟨rs,hrs,-,hget,-⟩ := hm
  exact ⟨hr,rs,hrs,hget⟩

end Run

end Vetting
