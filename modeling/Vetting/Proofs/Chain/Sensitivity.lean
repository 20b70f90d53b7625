import Vetting.Proofs.Chain.Policy
import Vetting.Proofs.Rules.Discreet

/-!
# Sensitive chains

A chain that has been seeded as sensitive stays so: whatever is derived from it is
sensitive, and the message of a failed check is asked for without the value. There is one
way out. The rules for the fields of a dictionary say for each field whether it is
sensitive, by the sign before its path, and the dictionary has no say in it; so a field
whose path goes without the sign is open even if the dictionary is sensitive. Such fields
are called bare here, and all that is shown openly is shown under their names.
-/
namespace Vetting
variable {mail : Rules.MailReader}

namespace Call

/-- It is asked for on behalf of a sensitive value, which it does not show. -/
def Hides (c : Call) : Prop :=
  Named.get? "value" c.context = some .null ∧
    Named.get? "sensitive" c.context = some (.bool true)

/-- It is asked for openly, under the name of a bare field. -/
def Exposes (bare : String → Prop) (c : Call) : Prop :=
  Named.get? "sensitive" c.context = some (.bool false) ∧
    ∃ p, bare p ∧ Named.get? "attribute" c.context = some (.text p)

/-- It is asked for to refuse a chain that is invalid, not for a failed check. -/
def Refuses (c : Call) : Prop :=
  ∃ (field : String) (errors : List String), c = ⟨.text invalidKey,
    [("attribute",.text field),("errors",.list (errors.map .text))]⟩

/-- No value is shown but that of a bare field. -/
def Covers (bare : String → Prop) (c : Call) : Prop :=
  c.Refuses ∨ c.Hides ∨ c.Exposes bare

end Call

/-- A node is sensitive, unless it is for a bare field. -/
def Node.Covered (bare : String → Prop) (n : Node) : Prop :=
  n.sensitive = true ∨ ∃ p, bare p ∧ n.field = some p

namespace Operation

/-- An operation on a node that does not make it known on purpose: no named values are
brought along with a check, no copy is declared open, and a field is sensitive by its
sign or is bare. -/
def Guarded (bare : String → Prop) (n : Node) : Operation → Prop
  | .check _ _ _ fields => fields = []
  | .assoc fields => ∀ f ∈ fields, (splitField f.1).2 = true ∨ bare (splitField f.1).1
  | .clone _ changes => changes.sensitive ≠ some false ∧
      ∀ p, changes.field = some p → n.sensitive = true ∨ bare p
  | _ => True

end Operation

/-- The context of a failed check shows the value exactly if its node is not sensitive. -/
theorem Heading.context_covers {bare : String → Prop} {n : Node} (hn : n.Covered bare)
    {fields : Named Value} (h : PlainFields fields) (key v : Value) (rule : String) :
    (Call.mk key (Named.overlay (n.heading.context v rule) fields)).Covers bare := by
  have hget : ∀ name : String, name ≠ "x" → name ≠ "y" →
      Named.get? name (Named.overlay (n.heading.context v rule) fields) =
        Named.get? name (n.heading.context v rule) :=
    fun name hx hy => h.get?_overlay hx hy _
  cases hs : n.sensitive with
  | true =>
      refine Or.inr (Or.inl ⟨?_,?_⟩)
      · rw [hget "value" (by simp) (by simp)]
        simp [Heading.context,Named.get?,Node.heading,hs]
      · rw [hget "sensitive" (by simp) (by simp)]
        simp [Heading.context,Named.get?,Node.heading,hs]
  | false =>
      rcases hn with ht | ⟨p,hp,hf⟩
      · rw [hs] at ht
        cases ht
      · refine Or.inr (Or.inr ⟨?_,p,hp,?_⟩)
        · rw [hget "sensitive" (by simp) (by simp)]
          simp [Heading.context,Named.get?,Node.heading,hs]
        · rw [hget "attribute" (by simp) (by simp)]
          simp [Heading.context,Named.get?,Node.heading,hf,optionText]

section
variable {σ : Setting} {bare : String → Prop}

/-- Nodes are covered, and what is asked for on their behalf shows no more than they do. -/
def coverPolicy (bare : String → Prop) (hσ : σ.registry.Discreet) : Policy σ where
  node := Node.Covered bare
  call := Call.Covers bare
  fields := PlainFields
  passed _ h := h
  failed _ _ h := h
  moved _ h := h
  forked _ h := h
  asked key v rule hn h := Heading.context_covers hn h key v rule
  refused field errors := Or.inl ⟨field,errors,rfl⟩
  brought hr ho := ((hσ _ _ hr).call _ _).fields_plain ho

/-- A copy of a covered node is covered unless it is declared open or goes by another
name than its own. -/
theorem copied_covered {n : Node} {c : Run.Changes} (hn : n.Covered bare)
    (hs : c.sensitive ≠ some false)
    (hf : ∀ p, c.field = some p → n.sensitive = true ∨ bare p) (value initial : Nat) :
    (Policy.copied n c value initial).Covered bare := by
  have hkeep : n.sensitive = true → (Policy.copied n c value initial).sensitive = true := by
    intro h
    rcases hc : c.sensitive with _ | b
    · simp [Policy.copied,hc,h]
    · cases b
      · exact absurd hc hs
      · simp [Policy.copied,hc]
  rcases hn with h | ⟨p,hp,hfield⟩
  · exact Or.inl (hkeep h)
  · rcases hc : c.field with _ | r
    · exact Or.inr ⟨p,hp,by simp [Policy.copied,hc,hfield]⟩
    · rcases hf r hc with h | hr
      · exact Or.inl (hkeep h)
      · exact Or.inr ⟨r,hr,by simp [Policy.copied,hc]⟩

/-- The node of the dictionary itself counts for nothing in the rules for its fields. -/
theorem coverPolicy_permits (hσ : σ.registry.Discreet) {op : Operation} {n : Node}
    (hop : op.Guarded bare n) (hn : n.Covered bare ∨ ∃ fields, op = .assoc fields) :
    (coverPolicy bare hσ).Permits n op := by
  cases op with
  | check condition message rule fields =>
      change PlainFields fields
      rw [show fields = [] from hop]
      exact .nil
  | assoc fields =>
      intro f hf m c
      rcases hop f hf with hs | hb
      · exact Or.inl hs
      · exact Or.inr ⟨_,hb,rfl⟩
  | clone o changes =>
      rcases hn with hn | ⟨fields,hf⟩
      · exact copied_covered hn hop.1 hop.2
      · cases hf
  | _ => exact trivial

/-- One operation: all nodes that it makes are covered, and so is all that it asks for. -/
theorem Operation.run_covers (hσ : σ.registry.Discreet) {op : Operation} {w : World}
    {i : Nat} (hi : w.Holds i) (hop : op.Guarded bare (w.node i))
    (hn : (w.node i).Covered bare ∨ ∃ fields, op = .assoc fields) :
    (∀ j, w.nodes.size ≤ j → j < ((op.run σ i).exec w).2.nodes.size →
      (((op.run σ i).exec w).2.node j).Covered bare) ∧
    ∀ c ∈ ((op.run σ i).exec w).2.calls.toList.drop w.calls.size, c.Covers bare := by
  have hp := coverPolicy_permits hσ hop hn
  rcases hn with hn | ⟨fields,rfl⟩
  · have hstart : (coverPolicy bare hσ).Governs (w.scope i) w.calls.size w := by
      refine .start ?_
      rintro k hk (rfl | hge)
      · exact hn
      · omega
    have hg := Policy.operation_keeps hstart (w.openFrom_scope i) (w.scope_self i) hi hp
    exact ⟨fun j hj hlt => hg.node j hlt (Or.inr hj),hg.call⟩
  · -- Here the scope leaves out the node of the dictionary, which may be open.
    have hstart : (coverPolicy bare hσ).Governs ⟨fun j => w.nodes.size ≤ j,fun _ => False⟩
        w.calls.size w :=
      .start fun k hk hge => absurd hk (Nat.not_lt.mpr hge)
    have hg := Policy.applyFields_keeps hstart (fun _ hj => hj) hi hp
    exact ⟨fun j hj hlt => hg.node j hlt hj,hg.call⟩

/-- The worlds of a history that begins with a sensitive chain, and in which nothing is
made known on purpose. -/
inductive Confided (σ : Setting) (bare : String → Prop) : World → Prop
  | seed (v : Value) (field : Option String) :
      Confided σ bare ((Run.seed v field true).exec .empty).2
  | operate {u : World} {i : Nat} (op : Operation) :
      Confided σ bare u → i < u.nodes.size → op.Guarded bare (u.node i) →
        Confided σ bare ((op.run σ i).exec u).2

theorem Confided.governs (hσ : σ.registry.Discreet) {u : World} (hu : Confided σ bare u) :
    u.Sound ∧ (coverPolicy bare hσ).Governs .all 0 u := by
  induction hu with
  | seed v field =>
      have hs : Run.Steady .all .empty (Run.seed v field true) (Run.Reaches .all) :=
        Run.seedOn_steady (Scope.openFrom_all _)
      exact ⟨World.sound_empty.extend hs.world,
        Policy.seedOn_keeps (.empty _) fun _ => Or.inl rfl⟩
  | @operate u i op _ hi hop ih =>
      obtain ⟨hsound,hg⟩ := ih
      have hp := coverPolicy_permits hσ hop (Or.inl (hg.node i hi trivial))
      exact ⟨hsound.extend (op.run_steady (hsound i hi)).world,
        Policy.operation_keeps hg (Scope.openFrom_all _) trivial (hsound i hi) hp⟩

end

/-- Whatever is done to a sensitive chain and to what is derived from it, all nodes are
sensitive and all failed checks hide the value, except for bare fields and under their
names. What an operation on a sensitive node makes and asks for is covered without any
bare fields, on a node for a bare field with that field alone, and the rules for the
fields of a dictionary bring in only those whose paths go without the sign. -/
theorem sensitivity_kept {t : Translator} {throwEarly : Bool} {bare : String → Prop}
    {u : World} (hu : Confided ⟨Rules.standard mail,t,throwEarly⟩ bare u) :
    (∀ i < u.nodes.size, (u.node i).Covered bare) ∧ (∀ c ∈ u.calls, c.Covers bare) ∧
    ∀ i < u.nodes.size, ∀ (op : Operation) (own : String → Prop),
      op.Guarded own (u.node i) →
      ((u.node i).Covered own ∨ ∃ fields, op = .assoc fields) →
      let v := ((op.run ⟨Rules.standard mail,t,throwEarly⟩ i).exec u).2
      (∀ j, u.nodes.size ≤ j → j < v.nodes.size → (v.node j).Covered own) ∧
        ∀ c ∈ v.calls.toList.drop u.calls.size, c.Covers own := by
  obtain ⟨hs,hg⟩ := hu.governs (Rules.standard_discreet mail)
  refine ⟨fun i hi => hg.node i hi trivial,?_,?_⟩
  · intro c hc
    exact hg.call c (by simpa using hc)
  · intro i hi op own hop hn
    exact Operation.run_covers (σ := ⟨Rules.standard mail,t,throwEarly⟩)
      (Rules.standard_discreet mail) (hs i hi) hop hn

/-- A sensitive account with a password, for which the rules name the password twice:
with the sign and, in another operation, without. -/
theorem sensitivity_kept_account :
    let σ : Setting := ⟨Rules.standard .none,.silent,false⟩
    let account : Value := .dict [(.text "pw",.text "hunter2")]
    let w := ((Run.seed account none true).exec .empty).2
    let u := (((Operation.assoc [("pw",.text "str")]).run σ 0).exec w).2
    let v := (((Operation.assoc [("#pw",.text "int")]).run σ 0).exec u).2
    Confided σ (fun p => p = "pw") u ∧ 0 < u.nodes.size ∧
      (∀ i < u.nodes.size, (u.node i).Covered fun p => p = "pw") ∧
      ∀ c ∈ v.calls.toList.drop u.calls.size, c.Covers fun _ => False := by
  intro σ account w u v
  have hw : Confided σ (fun p => p = "pw") w := .seed account none
  have hu : Confided σ (fun p => p = "pw") u := by
    refine .operate (.assoc [("pw",.text "str")]) hw (by decide) ?_
    intro f hf
    rw [List.mem_singleton.mp hf]
    exact Or.inr rfl
  have hs := (hw.governs (Rules.standard_discreet .none)).1 0 (by decide)
  have hle := (Operation.run_steady (.assoc [("pw",.text "str")]) (σ := σ) hs).world.nodes_le
  have hlt : 0 < u.nodes.size := Nat.lt_of_lt_of_le (by decide) hle
  obtain ⟨hnodes,-,hstep⟩ := sensitivity_kept hu
  refine ⟨hu,hlt,hnodes,?_⟩
  refine (hstep 0 hlt (.assoc [("#pw",.text "int")]) (fun _ => False) ?_ (Or.inr ⟨_,rfl⟩)).2
  intro f hf
  rw [List.mem_singleton.mp hf]
  exact Or.inl rfl

/-- Without the sign, the message for the password of a sensitive account shows it. -/
theorem bare_field_shown :
    let σ : Setting := ⟨Rules.standard .none,.silent,false⟩
    let account : Value := .dict [(.text "pw",.text "hunter2")]
    let w := ((Run.seed account none true).exec .empty).2
    let u := (((Operation.assoc [("pw",.text "int")]).run σ 0).exec w).2
    (w.node 0).sensitive = true ∧ ∃ c ∈ u.calls,
      Named.get? "rule" c.context = some (.text "integer") ∧
        Named.get? "value" c.context = some (.text "hunter2") ∧
        Named.get? "sensitive" c.context = some (.bool false) := by
  intro σ account w u
  have hc : u.calls.toList.head? = some ⟨.text "integer",
      Heading.context ⟨some "pw",false⟩ (.text "hunter2") "integer"⟩ := by
    with_unfolding_all rfl
  exact ⟨rfl,_,Array.mem_toList_iff.mp (List.mem_of_head? hc),rfl,rfl,rfl⟩

end Vetting
