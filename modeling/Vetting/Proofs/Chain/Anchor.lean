import Vetting.Proofs.Chain.Drawing
import Vetting.Proofs.Chain.FieldRun

/-!
# Chains that never get a new value

If the steps of an expression only judge, nothing but alternatives makes new nodes, and an
alternative starts from the first value again. So a chain whose nodes all hold the value that
it has begun with stays such a chain, and what comes out of it is the very value that has
been put in.
-/
namespace Vetting
variable {mail : Rules.MailReader}

/-- A step that names a standard rule that judges, or that does nothing. -/
def Step.Judges (mail : Rules.MailReader) (s : Step) : Prop :=
  s.isIdle = false → ∃ e ∈ Rules.validators mail, String.ofList s.name ∈ e.1 :: e.2.1

def OnlyJudges (mail : Rules.MailReader) (source : String) : Prop :=
  ∀ a ∈ Expression.parse source.toList, ∀ s ∈ a, s.Judges mail

theorem onlyJudges_of_names {source : String}
    (h : ∀ a ∈ Expression.parse source.toList, ∀ s ∈ a,
      ∃ e ∈ Rules.validators mail, String.ofList s.name ∈ e.1 :: e.2.1) :
    OnlyJudges mail source :=
  fun a ha s hs _ => h a ha s hs

/-- The same of the rules for a field, as far as they are expressions at all. -/
def FieldOnlyJudges (mail : Rules.MailReader) (fieldRules : Value) : Prop :=
  ∀ es, expressionsOf fieldRules = .ok es → ∀ e ∈ es, OnlyJudges mail e

namespace World
variable {S : Scope} {w u : World} {c i j : Nat}

/-- All nodes of a chain have the same cell for their value and for the first one. -/
structure Anchored (w : World) (c i : Nat) : Prop where
  sound : w.Sound
  lt : i < w.nodes.size
  cells : ∀ n ∈ w.lineage i, n.value = c ∧ n.initial = c

namespace Anchored

theorem extend (h : w.Anchored c i) (hu : w.Extends S u) : u.Anchored c i := by
  refine ⟨h.sound.extend hu,h.lt.trans_le hu.nodes_le,?_⟩
  have hg := h.sound.lineage_grows hu h.lt
  have hcells := h.cells
  generalize w.lineage i = ns at hg hcells
  generalize u.lineage i = ms at hg
  induction hg with
  | nil => exact hcells
  | cons hnm _ ih =>
      obtain ⟨hn,hrest⟩ := List.forall_mem_cons.mp hcells
      exact List.forall_mem_cons.mpr ⟨⟨hnm.value.trans hn.1,hnm.initial.trans hn.2⟩,ih hrest⟩

/-- An alternative to an anchored chain is anchored in the same cell. -/
theorem fork (h : w.Anchored c i) (hf : w.Forks u i j) (hn : u.node j = (w.node i).forked i) :
    u.Anchored c j := by
  refine ⟨h.sound.extend hf.world,hf.fresh.holds.lt,?_⟩
  have hi : (w.node i).initial = c := by
    refine (h.cells _ ?_).2
    rw [lineage_eq_cons]
    exact List.mem_cons_self
  rw [lineage_eq_cons,hf.ancestors,List.forall_mem_cons]
  exact ⟨by rw [hn]; exact ⟨hi,hi⟩,h.cells⟩

/-- What comes out of an anchored chain lies in its cell. -/
theorem result?_eq (h : w.Anchored c i) (hv : w.valid i = true) : w.result? i = some c := by
  rw [valid,List.any_eq_true] at hv
  obtain ⟨n,hn,hclean⟩ := hv
  cases hf : (w.lineage i).find? Node.isClean with
  | none => exact absurd hclean (List.find?_eq_none.mp hf n hn)
  | some m =>
      rw [result?,hf]
      exact congrArg some (h.cells m (List.mem_of_find?_eq_some hf)).1

theorem get_eq (h : w.Anchored c i) (hv : w.valid i = true) : w.get i = w.cell c := by
  rw [get,h.result?_eq hv]
  rfl

end Anchored

end World

namespace Run
variable {σ : Setting} {S : Scope} {w : World} {c i : Nat}

theorem applyStep_stays (hσ : σ.registry = Rules.standard mail) {s : Step} (hs : s.Judges mail)
    (hS : S.OpenFrom w.nodes.size) (hi : S.node i) (h : w.Holds i) :
    Steady S w (applyStep σ i s) fun j _ => j = i := by
  refine ⟨(applyStep_steady hS hi h).world,?_⟩
  intro j hj
  cases hidle : s.isIdle with
  | true =>
      rw [applyStep,if_pos hidle] at hj
      cases hj
      rfl
  | false =>
      obtain ⟨e,he,hname⟩ := hs hidle
      obtain ⟨r,o,hr,ho,hdrawn⟩ := applyStep_drawn h hidle (Prod.ext hj rfl)
      rw [hσ,Rules.get?_of_entry (List.mem_append_right _ he) hname] at hr
      cases hr
      have hjudges := (Rules.validators_judge e he).call _ _ _ o ho
      cases o with
      | verdict passed message rule fields => exact hdrawn.1
      | replaced v => exact hjudges.elim

theorem steps_stay (hσ : σ.registry = Rules.standard mail) {a : Alternative}
    (ha : ∀ s ∈ a, s.Judges mail) (hS : S.OpenFrom w.nodes.size) (hi : S.node i) (h : w.Holds i) :
    Steady S w (a.foldlM (applyStep σ) i) fun j _ => j = i := by
  induction a generalizing w with
  | nil => exact .pure rfl
  | cons s rest ih =>
      obtain ⟨hs,hrest⟩ := List.forall_mem_cons.mp ha
      rw [List.foldlM_cons]
      refine .bind (applyStep_stays hσ hs hS hi h) ?_
      rintro j u hu rfl
      exact ih hrest (hS.mono hu.nodes_le) (h.extend hu)

theorem fork_anchored (hS : S.OpenFrom w.nodes.size) (h : w.Anchored c i) :
    Steady S w (fork i) fun j u => S.node j ∧ u.Anchored c j := by
  obtain ⟨j,u,hx,hf⟩ := fork_forks (h.sound i h.lt)
  obtain ⟨v,hv,-,hn⟩ := exec_fork w i
  cases hv.symm.trans hx
  have hnode : u.node w.nodes.size = (w.node i).forked i := by
    rw [World.node_push hn,if_pos rfl]
  obtain ⟨hw,hj,-⟩ := (fork_steady hS (h.sound i h.lt)).of_ok hx
  refine .of_exec hx hw ?_
  rintro _ ⟨⟩
  exact ⟨hj,h.fork hf hnode⟩

theorem applyAlternatives_anchored (hσ : σ.registry = Rules.standard mail) {as : List Alternative}
    (ha : ∀ a ∈ as, ∀ s ∈ a, s.Judges mail) (hS : S.OpenFrom w.nodes.size) (hi : S.node i)
    (h : w.Anchored c i) :
    Steady S w (applyAlternatives σ i as) fun j u => S.node j ∧ u.Anchored c j := by
  induction as generalizing i w with
  | nil => exact .pure ⟨hi,h⟩
  | cons a rest ih =>
      obtain ⟨hsteps,hrest⟩ := List.forall_mem_cons.mp ha
      refine .bind (steps_stay hσ hsteps hS hi (h.sound i h.lt)) ?_
      rintro j u hu rfl
      have hj := h.extend hu
      split
      · exact .pure ⟨hi,hj⟩
      · refine .bind (fork_anchored (hS.mono hu.nodes_le) hj) ?_
        rintro k v hv ⟨hk,hkv⟩
        exact ih hrest (hS.mono (hu.nodes_le.trans hv.nodes_le)) hk hkv

theorem rules_anchored (hσ : σ.registry = Rules.standard mail) {source : String}
    (hs : OnlyJudges mail source) (hS : S.OpenFrom w.nodes.size) (hi : S.node i)
    (h : w.Anchored c i) :
    Steady S w (rules σ i source) fun j u => S.node j ∧ u.Anchored c j := by
  refine .bind (applyAlternatives_anchored hσ hs hS hi h) ?_
  rintro j u _ ⟨hj,hu⟩
  refine .get_bind (.bind .log ?_)
  intro _ x hx _
  exact .pure ⟨hj,hu.extend hx⟩

theorem applyExpressions_anchored (hσ : σ.registry = Rules.standard mail) {es : List String}
    (he : ∀ e ∈ es, OnlyJudges mail e) (hS : S.OpenFrom w.nodes.size) (hi : S.node i)
    (h : w.Anchored c i) :
    Steady S w (applyExpressions σ i es) fun j u => S.node j ∧ u.Anchored c j := by
  induction es generalizing i w with
  | nil => exact .pure ⟨hi,h⟩
  | cons e rest ih =>
      obtain ⟨hfirst,hrest⟩ := List.forall_mem_cons.mp he
      refine .bind (rules_anchored hσ hfirst hS hi h) ?_
      rintro j u hu ⟨hj,hju⟩
      split
      · exact .pure ⟨hj,hju⟩
      · refine .bind (fork_anchored (hS.mono hu.nodes_le) hju) ?_
        rintro k v hv ⟨hk,hkv⟩
        exact ih hrest (hS.mono (hu.nodes_le.trans hv.nodes_le)) hk hkv

end Run

end Vetting
