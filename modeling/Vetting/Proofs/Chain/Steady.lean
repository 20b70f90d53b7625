import Vetting.Proofs.Chain.Extension

/-!
# Every operation only extends a world

`Run.Steady` says of a run that it extends the world it starts in, whether it fails or
not, and that a result it comes to is as wanted. It is closed under putting runs one
after the other, so that each operation gets it from its parts: rules, expressions,
alternatives, validations, copies and the rules for fields. The last ones also write to
the cell of the container, and to no other cell.
-/
namespace Vetting

namespace Run
variable {α β : Type} {S : Scope} {σ : Setting} {w : World} {i : Nat}

structure Steady (S : Scope) (w : World) (x : Run α) (Q : α → World → Prop) : Prop where
  world : w.Extends S (x.exec w).2
  result : ∀ a, (x.exec w).1 = .ok a → Q a (x.exec w).2

namespace Steady

theorem of_exec {x : Run α} {Q : α → World → Prop} {r : Except Failure α} {u : World}
    (h : x.exec w = (r,u)) (hu : w.Extends S u) (hq : ∀ a, r = .ok a → Q a u) :
    Steady S w x Q := by
  refine ⟨?_,?_⟩
  · rw [h]
    exact hu
  · intro a ha
    rw [h] at ha ⊢
    exact hq a ha

theorem pure {a : α} {Q : α → World → Prop} (h : Q a w) :
    Steady S w (Pure.pure a) Q := by
  refine of_exec (exec_pure a w) (.refl S w) ?_
  rintro b ⟨⟩
  exact h

theorem throw {f : Failure} {Q : α → World → Prop} :
    Steady S w (MonadExcept.throw f) Q :=
  of_exec (exec_throw f w) (.refl S w) fun _ h => nomatch h

/-- The world in which the second run starts is one that the first run has reached. -/
theorem bind {x : Run α} {f : α → Run β} {P : α → World → Prop} {Q : β → World → Prop}
    (hx : Steady S w x P)
    (hf : ∀ a u, w.Extends S u → P a u → Steady S u (f a) Q) : Steady S w (x >>= f) Q := by
  obtain ⟨hw,hr⟩ := hx
  cases h : x.exec w with
  | mk r u =>
      rw [h] at hw hr
      cases r with
      | error e =>
          exact of_exec (exec_bind_of_error h f) hw fun _ h => nomatch h
      | ok a =>
          have hfa := hf a u hw (hr a rfl)
          refine of_exec (exec_bind_of_ok h f) (hw.trans hfa.world) ?_
          intro b hb
          exact hfa.result b hb

/-- What is known of a run that has come to a result. -/
theorem of_ok {x : Run α} {Q : α → World → Prop} {a : α} {u : World}
    (hx : Steady S w x Q) (h : x.exec w = (.ok a,u)) : w.Extends S u ∧ Q a u := by
  obtain ⟨hw,hr⟩ := hx
  rw [h] at hw hr
  exact ⟨hw,hr a rfl⟩

theorem weaken {x : Run α} {P Q : α → World → Prop} (hx : Steady S w x P)
    (h : ∀ a u, w.Extends S u → P a u → Q a u) : Steady S w x Q :=
  ⟨hx.world,fun a ha => h a _ hx.world (hx.result a ha)⟩

/-- Reading the world changes nothing, and what is read is the world itself. -/
theorem get_bind {f : World → Run β} {Q : β → World → Prop} (h : Steady S w (f w) Q) :
    Steady S w (get >>= f) Q := by
  have he := exec_bind_of_ok (exec_get w) f
  exact of_exec he h.world h.result

theorem nodeAt_bind {f : Node → Run β} {Q : β → World → Prop}
    (h : Steady S w (f (w.node i)) Q) : Steady S w (nodeAt i >>= f) Q := by
  have he := exec_bind_of_ok (exec_nodeAt i w) f
  exact of_exec he h.world h.result

theorem ofExcept {r : Except Failure α} : Steady S w (Run.ofExcept r) fun _ u => u = w :=
  of_exec (exec_ofExcept r w) (.refl S w) fun _ _ => rfl

theorem ofFault {r : Except Fault α} : Steady S w (Run.ofFault r) fun _ u => u = w :=
  ofExcept

theorem log {l : Level} {m : String} : Steady S w (Run.log l m) fun _ _ => True :=
  of_exec (exec_log l m w) (.of_eq rfl rfl List.prefix_rfl) fun _ _ => trivial

theorem translate {key : Value} {context : Named Value} :
    Steady S w (Run.translate σ key context) fun _ _ => True :=
  of_exec (exec_translate σ key context w) (.of_eq rfl rfl (by simp)) fun _ _ => trivial

theorem store {v : Value} :
    Steady S w (Run.store v) fun c u => c < u.cells.size := by
  refine of_exec (exec_store v w) (.pushCell rfl rfl rfl) ?_
  rintro c ⟨⟩
  simp

theorem place {o : Operand} :
    Steady S w (Run.place o) fun c u => c < u.cells.size := by
  cases o with
  | new v => exact .store
  | held c =>
      refine .get_bind ?_
      split
      · rename_i hc
        exact .pure hc
      · exact .store

theorem addNode {n : Node} (hp : ∀ p, n.parent = some p → p < w.nodes.size)
    (hv : n.value < w.cells.size) (hi : n.initial < w.cells.size) :
    Steady S w (Run.addNode n) fun j u => w.nodes.size ≤ j ∧ u.Holds j := by
  have hu : w.Extends S { w with nodes := w.nodes.push n } := .pushNode rfl rfl rfl hp hv hi
  refine of_exec (exec_addNode n w) hu ?_
  rintro j ⟨⟩
  exact ⟨Nat.le_refl _,hu.holds_new _ (Nat.le_refl _) (by simp)⟩

theorem addCheck {c : Check} (hi : S.node i) :
    Steady S w (Run.addCheck i c) fun _ _ => True :=
  of_exec (exec_addCheck i c w) (.addCheck hi c) fun _ _ => trivial

end Steady

/-- A node that later runs can go on with: it is in the scope, and it is there. -/
def Reaches (S : Scope) (j : Nat) (u : World) : Prop := S.node j ∧ u.Holds j

theorem seedOn_steady {o : Operand} {field : Option String} {sensitive : Bool}
    (hS : S.OpenFrom w.nodes.size) : Steady S w (seedOn o field sensitive) (Reaches S) := by
  refine .bind (P := fun _ _ => True)
    (.of_exec (exec_modify _ w) (.of_eq rfl rfl List.prefix_rfl) ?_) ?_
  · exact fun _ _ => trivial
  · intro _ u hu _
    refine .bind .place ?_
    intro c x hx hc
    refine .weaken (.addNode (fun _ h => nomatch h) hc hc) ?_
    rintro j y _ ⟨hj,hy⟩
    exact ⟨hS j (hu.nodes_le.trans (hx.nodes_le.trans hj)),hy⟩

theorem fail_steady {n : Node} {s rule : String} (hi : S.node i) :
    Steady S w (check.fail σ i rule n s) fun _ _ => True := by
  unfold check.fail
  split
  · exact .throw
  · exact .addCheck hi

theorem check_steady {passed : Bool} {message : Value} {rule : String}
    {fields : Named Value} (hi : S.node i) :
    Steady S w (check σ i passed message rule fields) fun _ _ => True := by
  unfold check
  split
  · exact .addCheck hi
  · refine .get_bind (.bind .translate ?_)
    intro translated u _ _
    split
    · exact fail_steady hi
    · exact fail_steady hi
    · exact .throw

theorem derive_steady {v : Value} (hS : S.OpenFrom w.nodes.size) (h : w.Holds i) :
    Steady S w (derive i v) (Reaches S) := by
  refine .bind .store ?_
  intro c u hu hc
  have hi := h.extend hu
  refine .nodeAt_bind (.weaken (.addNode ?_ hc hi.initial_lt) ?_)
  · intro p hp
    exact (hi.parent_lt p hp).trans hi.lt
  · rintro j x _ ⟨hj,hx⟩
    exact ⟨hS j (hu.nodes_le.trans hj),hx⟩

theorem conclude_steady {o : Outcome} (hS : S.OpenFrom w.nodes.size) (hi : S.node i)
    (h : w.Holds i) : Steady S w (conclude σ i o) (Reaches S) := by
  cases o with
  | verdict passed message rule fields =>
      refine .bind (check_steady hi) ?_
      intro _ u hu _
      exact .pure ⟨hi,h.extend hu⟩
  | replaced v => exact derive_steady hS h

theorem applyUnder_steady {reserved : List String} {name : String} {args : List Value}
    {byName : Named Value} (hS : S.OpenFrom w.nodes.size) (hi : S.node i) (h : w.Holds i) :
    Steady S w (applyUnder reserved σ i name args byName) (Reaches S) := by
  unfold applyUnder
  split
  · exact .throw
  · split
    · exact .throw
    · refine .get_bind (.bind .ofExcept ?_)
      rintro o u _ rfl
      exact conclude_steady hS hi h

theorem apply_steady {name : String} {args : List Value} {byName : Named Value}
    (hS : S.OpenFrom w.nodes.size) (hi : S.node i) (h : w.Holds i) :
    Steady S w (apply σ i name args byName) (Reaches S) :=
  applyUnder_steady hS hi h

theorem invoke_steady {name : String} {args : List Value} {byName : Named Value}
    (hS : S.OpenFrom w.nodes.size) (hi : S.node i) (h : w.Holds i) :
    Steady S w (invoke σ i name args byName) (Reaches S) := by
  unfold invoke
  split
  · exact .throw
  · exact apply_steady hS hi h

theorem stepArguments_steady {name : String} {args : List Value} :
    Steady S w (stepArguments σ name args) fun _ _ => True := by
  unfold stepArguments
  split
  · exact .pure trivial
  · split
    · exact .bind .log fun _ _ _ _ => .pure trivial
    · exact .pure trivial

theorem applyStep_steady {s : Step} (hS : S.OpenFrom w.nodes.size) (hi : S.node i)
    (h : w.Holds i) : Steady S w (applyStep σ i s) (Reaches S) := by
  unfold applyStep
  split
  · exact .pure ⟨hi,h⟩
  · refine .bind stepArguments_steady ?_
    intro args u hu _
    exact apply_steady (hS.mono hu.nodes_le) hi (h.extend hu)

theorem steps_steady {steps : List Step} (hS : S.OpenFrom w.nodes.size) (hi : S.node i)
    (h : w.Holds i) : Steady S w (steps.foldlM (applyStep σ) i) (Reaches S) := by
  induction steps generalizing i w with
  | nil => exact .pure ⟨hi,h⟩
  | cons s rest ih =>
      rw [List.foldlM_cons]
      refine .bind (applyStep_steady hS hi h) ?_
      rintro j u hu ⟨hj,hu'⟩
      exact ih (hS.mono hu.nodes_le) hj hu'

theorem fork_steady (hS : S.OpenFrom w.nodes.size) (h : w.Holds i) :
    Steady S w (fork i) (Reaches S) := by
  refine .nodeAt_bind (.weaken (.addNode ?_ h.initial_lt h.initial_lt) ?_)
  · rintro p ⟨⟩
    exact h.lt
  · rintro j u _ ⟨hj,hu⟩
    exact ⟨hS j hj,hu⟩

theorem applyAlternatives_steady {as : List Alternative} (hS : S.OpenFrom w.nodes.size)
    (hi : S.node i) (h : w.Holds i) :
    Steady S w (applyAlternatives σ i as) (Reaches S) := by
  induction as generalizing i w with
  | nil => exact .pure ⟨hi,h⟩
  | cons a rest ih =>
      refine .bind (steps_steady hS hi h) ?_
      rintro j u hu ⟨hj,hu'⟩
      split
      · exact .pure ⟨hj,hu'⟩
      · refine .bind (fork_steady (hS.mono hu.nodes_le) hu') ?_
        rintro k x hx ⟨hk,hx'⟩
        exact ih (hS.mono (hu.nodes_le.trans hx.nodes_le)) hk hx'

theorem rules_steady {source : String} (hS : S.OpenFrom w.nodes.size) (hi : S.node i)
    (h : w.Holds i) : Steady S w (rules σ i source) (Reaches S) := by
  refine .bind (applyAlternatives_steady hS hi h) ?_
  rintro j u _ ⟨hj,hu⟩
  refine .get_bind (.bind .log ?_)
  intro _ x hx _
  exact .pure ⟨hj,hu.extend hx⟩

theorem validate_steady (hi : S.node i) (h : w.Holds i) :
    Steady S w (validate σ i) (Reaches S) := by
  refine .get_bind ?_
  split
  · exact .pure ⟨hi,h⟩
  · refine .bind .translate ?_
    intro translated u _ _
    exact .bind .log fun _ _ _ _ => .throw

theorem clone_steady {o : Operand} {c : Changes} (hS : S.OpenFrom w.nodes.size)
    (h : w.Holds i) : Steady S w (clone i o c) (Reaches S) := by
  refine .nodeAt_bind (.bind .place ?_)
  intro cell u hu hc
  have hi := h.extend hu
  have hn : ∀ {initial : Nat} {x : World}, u.Extends S x → initial < x.cells.size →
      Steady S x (addNode
        { value := cell
          initial := initial
          field := c.field.or (w.node i).field
          sensitive := c.sensitive.getD (w.node i).sensitive
          parent := (w.node i).parent
          checks := if c.keepChecks then (w.node i).checks else [] }) (Reaches S) := by
    intro initial x hx hlt
    refine .weaken (.addNode ?_ (hc.trans_le hx.cells_le) hlt) ?_
    · intro p hp
      exact ((h.parent_lt p hp).trans h.lt).trans_le (hu.nodes_le.trans hx.nodes_le)
    · rintro j y _ ⟨hj,hy⟩
      exact ⟨hS j (hu.nodes_le.trans (hx.nodes_le.trans hj)),hy⟩
  cases c.initial with
  | some first => exact .bind .place fun initial x hx hlt => hn hx hlt
  | none => exact hn (.refl S u) (h.initial_lt.trans_le hu.cells_le)

theorem describe_steady : Steady S w (describe i) fun _ _ => True := by
  refine .get_bind ?_
  dsimp only
  have hr : ∀ {v : String} {u : World}, Steady S u (do
      let field ← ofFault (optionText (w.node i).field).literal
      return "RuleChain(value=" ++ v ++ ", attribute=" ++ field ++ ", checks=" ++
        toString (w.node i).checks.length ++ ", valid=" ++ truthName (w.valid i) ++ ")")
      fun _ _ => True :=
    .bind .ofFault fun _ _ _ _ => .pure trivial
  split
  · exact .bind (.pure (Q := fun _ _ => True) trivial) fun _ _ _ _ => hr
  · exact .bind .ofFault fun _ _ _ _ => hr

theorem applyExpressions_steady {es : List String} (hS : S.OpenFrom w.nodes.size)
    (hi : S.node i) (h : w.Holds i) :
    Steady S w (applyExpressions σ i es) (Reaches S) := by
  induction es generalizing i w with
  | nil => exact .pure ⟨hi,h⟩
  | cons e rest ih =>
      refine .bind (rules_steady hS hi h) ?_
      rintro j u hu ⟨hj,hu'⟩
      split
      · exact .pure ⟨hj,hu'⟩
      · refine .bind (fork_steady (hS.mono hu.nodes_le) hu') ?_
        rintro k x hx ⟨hk,hx'⟩
        exact ih (hS.mono (hu.nodes_le.trans hx.nodes_le)) hk hx'

theorem fieldNode_steady {field : String} {sensitive : Bool} {v : Value}
    (hS : S.OpenFrom w.nodes.size) (h : w.Holds i) :
    Steady S w (fieldNode i field sensitive v) (Reaches S) := by
  refine .nodeAt_bind (.bind .store ?_)
  intro c u hu hc
  refine .weaken (.addNode ?_ hc hc) ?_
  · intro p hp
    exact ((h.parent_lt p hp).trans h.lt).trans_le hu.nodes_le
  · rintro j x _ ⟨hj,hx⟩
    exact ⟨hS j (hu.nodes_le.trans hj),hx⟩

theorem writeBack_steady {c : Nat} {path : String} {v : Value} (hc : S.cell c) :
    Steady S w (writeBack c path v) fun _ _ => True := by
  refine .get_bind (.bind (P := fun _ _ => True) (.of_exec (exec_modify _ w) ?_ ?_) ?_)
  · exact .setCell hc rfl rfl rfl
  · exact fun _ _ => trivial
  · exact fun _ _ _ _ => .weaken .ofExcept fun _ _ _ _ => trivial

/-- Checks are made on nodes of the field's own, so the container's node need not be in
the scope: only its cell does. -/
theorem applyField_steady {field : String} {fieldRules : Value}
    (hS : S.OpenFrom w.nodes.size) (h : w.Holds i) (hc : S.cell (w.node i).value) :
    Steady S w (applyField σ i field fieldRules) fun _ _ => True := by
  refine .nodeAt_bind (.get_bind (.bind .ofFault ?_))
  rintro current _ _ rfl
  refine .bind (fieldNode_steady hS h) ?_
  rintro start u hu ⟨hs,hu'⟩
  refine .bind .ofFault ?_
  rintro es _ _ rfl
  refine .bind (applyExpressions_steady (hS.mono hu.nodes_le) hs hu') ?_
  rintro j x hx ⟨hj,hx'⟩
  refine .bind (P := fun _ _ => True) ?_ ?_
  · exact .bind (validate_steady hj hx') fun _ _ _ _ => .pure trivial
  · intro _ y _ _
    refine .get_bind (.bind .ofFault ?_)
    rintro differs _ _ rfl
    split
    · exact .bind .log fun _ _ _ _ => writeBack_steady hc
    · exact .pure trivial

theorem fields_steady {fields : Named Value} (hS : S.OpenFrom w.nodes.size)
    (h : w.Holds i) (hc : S.cell (w.node i).value) :
    Steady S w (fields.forM fun f => applyField σ i f.1 f.2) fun _ _ => True := by
  induction fields generalizing w with
  | nil => exact .pure trivial
  | cons f rest ih =>
      refine .bind (applyField_steady hS h hc) ?_
      intro _ u hu _
      refine ih (hS.mono hu.nodes_le) (h.extend hu) ?_
      rw [(hu.node_grows i h.lt).value]
      exact hc

theorem applyFields_steady {fields : Named Value} (hS : S.OpenFrom w.nodes.size)
    (h : w.Holds i) (hc : S.cell (w.node i).value) :
    Steady S w (applyFields σ i fields) fun j u => j = i ∧ u.Holds j := by
  refine .get_bind ?_
  split
  · refine .bind (fields_steady hS h hc) ?_
    intro _ u hu _
    exact .pure ⟨rfl,h.extend hu⟩
  · exact .throw

end Run

end Vetting
