import Vetting.Proofs.Chain.History

/-!
# What is asked of a whole chain

The queries go along the parents of a node. `World.Ascends` is the row of nodes that they
pass, which every node of a history has, and exactly one. Read off that row, the queries
agree with each other: a chain is valid, has no errors and passes its validation all at
once, and its value is that of the nearest clean node.
-/
namespace Vetting

theorem Check.error?_eq_none_iff {c : Check} : c.error? = none ↔ c.hasPassed = true := by
  cases c <;> simp [error?,hasPassed]

/-- A node has no messages exactly if it has no failed checks. -/
theorem Node.errors_eq_nil_iff {n : Node} : n.errors = [] ↔ n.isClean = true := by
  simp [errors,isClean,hasErrors,Check.error?_eq_none_iff]

namespace World
variable {w : World} {i p : Nat} {js ks : List Nat}

/-- The row of nodes from a node up to the one without a parent. -/
inductive Ascends (w : World) : Nat → List Nat → Prop
  | root {i : Nat} : (w.node i).parent = none → Ascends w i [i]
  | child {i p : Nat} {js : List Nat} : (w.node i).parent = some p → Ascends w p js →
      Ascends w i (i :: js)

theorem Ascends.unique (h : w.Ascends i js) (h' : w.Ascends i ks) : js = ks := by
  induction h generalizing ks with
  | root hp =>
      cases h' with
      | root _ => rfl
      | child hp' _ => cases hp.symm.trans hp'
  | child hp _ ih =>
      cases h' with
      | root hp' => cases hp.symm.trans hp'
      | child hp' h' =>
          cases hp.symm.trans hp'
          rw [ih h']

/-- Parents stand before their children, so the induction is on the place of the node. -/
theorem Sound.exists_ascends (hw : w.Sound) (hi : i < w.nodes.size) :
    ∃ js, w.Ascends i js ∧ w.lineage i = js.map w.node := by
  induction i using Nat.strong_induction_on with
  | _ i ih =>
      cases hp : (w.node i).parent with
      | none => exact ⟨[i],.root hp,lineage_of_root hp⟩
      | some p =>
          have hlt := (hw i hi).parent_lt p hp
          obtain ⟨js,hjs,hl⟩ := ih p hlt (hlt.trans hi)
          refine ⟨i :: js,.child hp hjs,?_⟩
          rw [lineage_of_parent hp hlt,hl,List.map_cons]

/-- An invalid chain has an error: one of the node itself. -/
theorem errors_eq_nil_iff : w.errors i = [] ↔ w.valid i = true := by
  constructor
  · intro he
    by_contra hv
    rw [errors,if_neg hv,lineage_eq_cons,List.flatMap_cons,List.append_eq_nil_iff] at he
    apply hv
    rw [valid,lineage_eq_cons,List.any_cons,Node.errors_eq_nil_iff.mp he.1,Bool.true_or]
  · intro hv
    rw [errors,if_pos hv]

end World

namespace Run
variable {σ : Setting} {w : World} {i : Nat}

/-- The errors of an invalid chain are all in the failure, and nothing becomes of any
node. -/
theorem exec_validate_of_invalid
    (hτ : ∀ context, ∃ m, σ.translator.translate (.text invalidKey) context = .ok m)
    (h : w.valid i = false) :
    ∃ m u, (validate σ i).exec w =
        (.error (.invalid m ((w.node i).field.getD generalField) (w.errors i)),u) ∧
      u.nodes = w.nodes ∧ u.cells = w.cells := by
  unfold validate
  rw [exec_bind_of_ok (exec_get w)]
  dsimp only
  rw [if_neg (by rw [h]; exact Bool.false_ne_true),exec_bind,exec_translate]
  obtain ⟨translated,ht⟩ := hτ [("attribute",.text ((w.node i).field.getD generalField)),
    ("errors",.list ((w.errors i).map .text))]
  rw [ht]
  exact ⟨_,_,rfl,rfl,rfl⟩

end Run

/-- How the queries of a node are answered, `js` being the row of nodes from it upwards. -/
structure World.Answers (σ : Setting) (w : World) (i : Nat) (js : List Nat) : Prop where
  valid : w.valid i = true ↔ ∃ j ∈ js, ∀ c ∈ (w.node j).checks, c.hasPassed = true
  get : w.get i = ((js.find? fun j => (w.node j).isClean).map w.value).getD .null
  errors : w.errors i = if w.valid i then [] else js.flatMap fun j => (w.node j).errors
  errors_eq_nil : w.errors i = [] ↔ w.valid i = true
  hasErrors : w.hasErrors i = false ↔ w.valid i = true
  returns : (∃ j, ((Run.validate σ i).exec w).1 = .ok j) ↔ w.valid i = true
  returns_self : w.valid i = true → (Run.validate σ i).exec w = (.ok i,w)
  fails : w.valid i = false → ∃ f u, (Run.validate σ i).exec w = (.error f,u) ∧
    f.family? = some .validation ∧ f.context = [("errors",.dict
      [(.text ((w.node i).field.getD "general"),.list ((w.errors i).map .text))])] ∧
    u.nodes = w.nodes ∧ u.cells = w.cells

/-- The queries of a node in any history are answered by the one row of nodes from it
upwards, as long as the translator answers for a failed validation. Any registry of rules that
give a verdict or a new value will do. -/
theorem queries_agree {σ : Setting} {w : World} {i : Nat}
    (hτ : ∀ context, ∃ m, σ.translator.translate (.text invalidKey) context = .ok m)
    (hw : Later σ .empty w) (hi : i < w.nodes.size) :
    ∃ js, w.Ascends i js ∧ (∀ ks, w.Ascends i ks → ks = js) ∧ w.Answers σ i js := by
  obtain ⟨js,hjs,hl⟩ := (hw.extends_sound World.sound_empty).2.exists_ascends hi
  have hinvalid := Run.exec_validate_of_invalid (w := w) (i := i) hτ
  refine ⟨js,hjs,fun ks hks => hks.unique hjs,?_,?_,?_,World.errors_eq_nil_iff,?_,?_,
    Run.exec_validate_of_valid,?_⟩
  · simp [World.valid,hl,Node.isClean,Node.hasErrors]
  · rw [World.get,World.result?,hl,List.find?_map,Option.map_map,Option.map_map]
    rfl
  · rw [World.errors,hl,List.flatMap_map]
  · simp [World.hasErrors]
  · constructor
    · rintro ⟨j,hj⟩
      cases hv : w.valid i with
      | true => rfl
      | false =>
          obtain ⟨m,u,hx,-⟩ := hinvalid hv
          rw [hx] at hj
          cases hj
    · intro hv
      exact ⟨i,by rw [Run.exec_validate_of_valid hv]⟩
  · intro hv
    obtain ⟨m,u,hx,hn,hc⟩ := hinvalid hv
    exact ⟨_,u,hx,rfl,rfl,hn,hc⟩

/-- A chain that has failed twice, the second time as an alternative to the first. -/
theorem queries_agree_twice :
    let σ : Setting := ⟨Rules.standard .none,.silent,false⟩
    let seeded := ((Run.seed (.int 5) none false).exec .empty).2
    let first := (((Operation.check (.bool false) .null "adult" []).run σ 0).exec seeded).2
    let forked := ((Operation.fork.run σ 0).exec first).2
    let w := (((Operation.check (.bool false) .null "senior" []).run σ 1).exec forked).2
    Later σ .empty w ∧ w.Answers σ 1 [1,0] ∧ w.errors 1 = ["senior","adult"] := by
  intro σ seeded first forked w
  have hw : Later σ .empty w :=
    .operate _ (.operate _ (.operate _ (.seed _ _ _ .refl) (by decide)) (by decide)) (by decide)
  have hτ : ∀ context, ∃ m, σ.translator.translate (.text invalidKey) context = .ok m :=
    fun _ => ⟨none,rfl⟩
  have hi : 1 < w.nodes.size := by decide
  have hrow : w.Ascends 1 [1,0] := .child rfl (.root rfl)
  obtain ⟨js,-,hunique,hanswers⟩ := queries_agree hτ hw hi
  rw [← hunique _ hrow] at hanswers
  have hinvalid : w.valid 1 = false := by
    rw [Bool.eq_false_iff]
    intro hv
    obtain ⟨j,hj,hpassed⟩ := hanswers.valid.mp hv
    rcases List.mem_cons.mp hj with rfl | hj
    · cases hpassed (.failed "senior") (List.mem_singleton_self _)
    · cases List.mem_singleton.mp hj
      cases hpassed (.failed "adult") (List.mem_singleton_self _)
  refine ⟨hw,hanswers,?_⟩
  rw [hanswers.errors,hinvalid]
  rfl

end Vetting
