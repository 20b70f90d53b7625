import Vetting.Proofs.Chain.FirstFailure
import Vetting.Proofs.Rules.Contract

/-!
# What the application of a rule leaves

A rule that is applied to a node has one of three effects. It is refused, and nothing has
happened to any node; or the node has one check more; or there is a new node, which goes
on from the old one with a value of its own, and from then on the two go their own ways.
Which of them can happen is a matter of the rule: those that judge make no node, and those
that make values only ever record that they have failed.
-/
namespace Vetting
variable {mail : Rules.MailReader}

/-- What can become of a node that a rule is applied to. -/
inductive Effect where
  | refused
  | checked (c : Check)
  | replaced (v : Value)

namespace Effect
variable {w : World} {i : Nat} {r : Except Failure Nat × World} {e e' : Effect}

/-- Whether a run on a node has left an effect, and nothing else in nodes and values. -/
def Left (w : World) (i : Nat) (r : Except Failure Nat × World) : Effect → Prop
  | .refused => (∃ f, r.1 = .error f) ∧ r.2.nodes = w.nodes ∧ r.2.cells = w.cells
  | .checked c => r.1 = .ok i ∧ r.2.nodes = (w.addCheck i c).nodes ∧ r.2.cells = w.cells
  | .replaced v => r.1 = .ok w.nodes.size ∧
      r.2.nodes = w.nodes.push { w.node i with value := w.cells.size } ∧
      r.2.cells = w.cells.push v

theorem checked_inj {c d : Check} (hi : i < w.nodes.size)
    (h : (w.addCheck i c).nodes = (w.addCheck i d).nodes) : c = d := by
  have hn := World.node_eq_of_nodes_eq h i
  rw [World.node_addCheck_self hi,World.node_addCheck_self hi] at hn
  have hc := congrArg Node.checks hn
  simpa using hc

/-- A run leaves one effect. -/
theorem Left.unique (hi : i < w.nodes.size) (h : e.Left w i r) (h' : e'.Left w i r) :
    e = e' := by
  obtain ⟨r,u⟩ := r
  cases e with
  | refused =>
      obtain ⟨⟨f,rfl⟩,-⟩ := h
      cases e' with
      | refused => rfl
      | checked d => cases h'.1
      | replaced v => cases h'.1
  | checked c =>
      obtain ⟨rfl,hn,-⟩ := h
      cases e' with
      | refused => exact nomatch h'.1
      | checked d =>
          obtain ⟨-,hn',-⟩ := h'
          rw [checked_inj hi (hn.symm.trans hn')]
      | replaced v => exact (Nat.ne_of_lt hi (Except.ok.inj h'.1)).elim
  | replaced v =>
      obtain ⟨rfl,-,hc⟩ := h
      cases e' with
      | refused => exact nomatch h'.1
      | checked d => exact (Nat.ne_of_lt hi (Except.ok.inj h'.1).symm).elim
      | replaced v' =>
          obtain ⟨-,-,hc'⟩ := h'
          rw [Array.push_inj_right.mp (hc.symm.trans hc')]

end Effect

theorem Operation.run_node_eq (op : Operation) {σ : Setting} {w : World} {i j : Nat}
    (hw : w.Sound) (hi : i < w.nodes.size) (hj : j < w.nodes.size) (hij : i ≠ j) :
    ((op.run σ i).exec w).2.node j = w.node j := by
  refine (op.run_steady (σ := σ) (hw i hi)).world.node_eq j hj ?_
  rintro (rfl | hge)
  · exact hij rfl
  · exact Nat.not_lt.mpr hge hj

namespace World
variable {σ : Setting} {w : World} {i j : Nat}

/-- A check that has failed under the name of a rule: it says what the translator has for
that name. -/
def FailsUnder (σ : Setting) (w : World) (i : Nat) (rule : String) (c : Check) : Prop :=
  ∃ s, (Run.failureCall w i .null rule []).wording? σ.translator = some s ∧
    c = .failed (Run.fieldLabel (w.node i) ++ s)

/-- Whatever is done to one of two nodes later does not show on the other. -/
def Independent (σ : Setting) (w : World) (i j : Nat) : Prop :=
  ∀ u, Later σ w u → ∀ op : Operation,
    ((op.run σ i).exec u).2.node j = u.node j ∧ ((op.run σ j).exec u).2.node i = u.node i

theorem Sound.independent (hw : w.Sound) (hi : i < w.nodes.size) (hj : j < w.nodes.size)
    (hij : i ≠ j) : w.Independent σ i j := by
  intro u hu op
  obtain ⟨hext,hs⟩ := hu.extends_sound hw
  have hiu := hi.trans_le hext.nodes_le
  have hju := hj.trans_le hext.nodes_le
  exact ⟨op.run_node_eq hs hiu hju hij,op.run_node_eq hs hju hiu hij.symm⟩

end World

namespace Run
variable {σ : Setting} {w : World} {i : Nat}

theorem refused_left {f : Failure} {u : World} (hn : u.nodes = w.nodes)
    (hc : u.cells = w.cells) : Effect.refused.Left w i (.error f,u) :=
  ⟨⟨f,rfl⟩,hn,hc⟩

theorem derive_left (i : Nat) (v : Value) (w : World) :
    (Effect.replaced v).Left w i ((derive i v).exec w) :=
  ⟨rfl,rfl,rfl⟩

/-- A verdict is recorded, or it is refused: for want of a message, or because failures
are thrown. -/
theorem verdict_left (σ : Setting) (w : World) (i : Nat) (passed : Bool) (message : Value)
    (rule : String) (fields : Named Value) :
    let r := (conclude σ i (.verdict passed message rule fields)).exec w
    Effect.refused.Left w i r ∨ ∃ c, (Effect.checked c).Left w i r ∧
      (passed = false → ∃ s, (failureCall w i message rule fields).wording? σ.translator =
        some s ∧ c = .failed (fieldLabel (w.node i) ++ s)) := by
  obtain ⟨ρ,t,early⟩ := σ
  intro r
  cases passed with
  | true => exact Or.inr ⟨_,⟨rfl,rfl,rfl⟩,fun h => nomatch h⟩
  | false =>
      have hr : r = (check ⟨ρ,t,early⟩ i false message rule fields >>= fun _ => pure i).exec w :=
        rfl
      rw [hr,exec_bind]
      rcases exec_check_failed ρ t w i message rule fields with ⟨f,hf⟩ | ⟨s,hs,hf⟩
      · rw [hf early]
        exact Or.inl (refused_left rfl rfl)
      · rw [hf early]
        cases early with
        | true =>
            rw [exec_fail_thrown]
            exact Or.inl (refused_left rfl rfl)
        | false =>
            rw [exec_fail_added]
            exact Or.inr ⟨_,⟨rfl,rfl,rfl⟩,fun _ => ⟨s,hs,rfl⟩⟩

/-- The application of a rule is refused, or the outcome of the rule is drawn. -/
theorem apply_cases {name : String} {rule : Rule} (h : σ.registry.get? name = some rule)
    (i : Nat) (args : List Value) (byName : Named Value) (w : World) :
    Effect.refused.Left w i ((apply σ i name args byName).exec w) ∨
      ∃ o, rule.call (w.value i) args byName = .ok o ∧
        (apply σ i name args byName).exec w = (conclude σ i o).exec w := by
  unfold apply applyUnder
  split
  · exact Or.inl (refused_left rfl rfl)
  · rw [h]
    have hx : (do conclude σ i (← ofExcept (rule.call ((← get).value i) args byName)) :
        Run Nat).exec w = (ofExcept (rule.call (w.value i) args byName) >>=
          conclude σ i).exec w := rfl
    dsimp only
    rw [hx,exec_bind,exec_ofExcept]
    cases rule.call (w.value i) args byName with
    | error f => exact Or.inl (refused_left rfl rfl)
    | ok o => exact Or.inr ⟨o,rfl,rfl⟩

/-- What an entry of the table of rules may do to a node, an effect being given: those that
judge make no new node, those that make values record only that they have failed under
their own name, and a new node is independent of the one that it goes on from. -/
structure Allowed (mail : Rules.MailReader) (σ : Setting) (w : World) (i : Nat)
    (r : Except Failure Nat × World) (entry : String × List String × Rule) (e : Effect) :
    Prop where
  judges : entry ∈ Rules.validators mail → ∀ v, e ≠ .replaced v
  fails : entry ∈ Rules.transformers → ∀ c, e = .checked c → w.FailsUnder σ i entry.1 c
  independent : ∀ v, e = .replaced v → r.2.Independent σ i w.nodes.size

theorem allowed_refused (r : Except Failure Nat × World)
    (entry : String × List String × Rule) : Allowed mail σ w i r entry .refused :=
  ⟨fun _ _ => nofun,fun _ _ => nofun,fun _ => nofun⟩

/-- The outcome of a rule is drawn on a node. -/
theorem conclude_allowed {entry : String × List String × Rule} {o : Outcome}
    (hi : i < w.nodes.size) (hu : Later σ .empty ((conclude σ i o).exec w).2)
    (hj : entry ∈ Rules.validators mail → o.Judges)
    (hm : entry ∈ Rules.transformers → o.Makes entry.1) :
    ∃ e : Effect, e.Left w i ((conclude σ i o).exec w) ∧
      Allowed mail σ w i ((conclude σ i o).exec w) entry e := by
  cases o with
  | replaced v =>
      have hl : (Effect.replaced v).Left w i ((conclude σ i (.replaced v)).exec w) :=
        derive_left i v w
      refine ⟨.replaced v,hl,fun h => (hj h).elim,fun _ _ => nofun,?_⟩
      intro _ _
      have hs := (hu.extends_sound World.sound_empty).2
      have hsize := congrArg Array.size hl.2.1
      rw [Array.size_push] at hsize
      exact hs.independent (by omega) (by omega) (Nat.ne_of_lt hi)
  | verdict passed message rule fields =>
      rcases verdict_left σ w i passed message rule fields with hr | ⟨c,hr,hc⟩
      · exact ⟨.refused,hr,allowed_refused _ entry⟩
      · refine ⟨.checked c,hr,fun _ _ => nofun,?_,fun _ => nofun⟩
        rintro htransform _ ⟨⟩
        obtain ⟨v,hv⟩ | hfailed := hm htransform
        · cases hv
        · cases hfailed
          exact hc rfl

/-- Each name of a standard rule stands for an entry of the table, and the application of
its rule has exactly one effect, which the entry is allowed to have. -/
theorem apply_contract (hreg : σ.registry = Rules.standard mail) (hw : Later σ .empty w)
    (hi : i < w.nodes.size) {name : String} (hn : (Rules.standard mail).contains name = true)
    (args : List Value) (byName : Named Value) :
    let r := (apply σ i name args byName).exec w
    ∃ entry ∈ Rules.transformers ++ Rules.validators mail, name ∈ entry.1 :: entry.2.1 ∧
      (Rules.standard mail).get? name = some entry.2.2 ∧
      ∃ e : Effect, e.Left w i r ∧ (∀ e' : Effect, e'.Left w i r → e' = e) ∧
        Allowed mail σ w i r entry e := by
  intro r
  obtain ⟨rule,hrule⟩ := Option.isSome_iff_exists.mp hn
  obtain ⟨entry,hentry,hname,rfl⟩ := Rules.exists_entry hrule
  refine ⟨entry,hentry,hname,hrule,?_⟩
  have hu : Later σ .empty r.2 := .operate (.apply name args byName) hw hi
  rw [← hreg] at hrule
  have he : ∃ e : Effect, e.Left w i r ∧ Allowed mail σ w i r entry e := by
    rcases apply_cases hrule i args byName w with hr | ⟨o,ho,hr⟩
    · exact ⟨.refused,hr,allowed_refused r entry⟩
    · have hx : r = (conclude σ i o).exec w := hr
      rw [hx] at hu ⊢
      refine conclude_allowed hi hu ?_ ?_
      · exact fun hv => (Rules.validators_judge entry hv).call _ args byName o ho
      · exact fun hv => (Rules.transformers_make entry hv).call _ args byName o ho
  obtain ⟨e,hleft,hallowed⟩ := he
  exact ⟨e,hleft,fun e' he' => he'.unique hi hleft,hallowed⟩

/-- A name that is trimmed, by way of an alias. -/
theorem apply_contract_trim :
    let σ : Setting := ⟨Rules.standard .none,.standard,false⟩
    let w := ((seed (.text " a ") (some "name") false).exec .empty).2
    let r := (apply σ 0 "as_trim" [] []).exec w
    Later σ .empty w ∧ (Effect.replaced (.text "a")).Left w 0 r ∧ r.2.Independent σ 0 1 := by
  intro σ w r
  have hw : Later σ .empty w := .seed _ _ _ .refl
  have hr : (Effect.replaced (.text "a")).Left w 0 r := ⟨rfl,rfl,rfl⟩
  have hi : 0 < w.nodes.size := by decide
  have hn : (Rules.standard .none).contains "as_trim" = true := rfl
  obtain ⟨entry,-,-,-,e,-,hunique,hallowed⟩ := apply_contract (σ := σ) rfl hw hi hn [] []
  exact ⟨hw,hr,hallowed.independent _ (hunique _ hr).symm⟩

end Run

end Vetting
