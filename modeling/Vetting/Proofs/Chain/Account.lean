import Vetting.Proofs.Chain.Course

/-!
# Every message is asked for by a failure

The translator is asked for one message by each check that fails and by each invalid chain
that is refused, in the order in which these happen, and by nothing else. A part of a
course asks for the messages of its events, so a whole course does, and so does a history
of operations. What a failed check says is the label of its node and the words for the
message that was asked for. Nothing else is ever recorded as a failure, and an operation
fails as a check or a validation does only with its last event.
-/
namespace Vetting
variable {mail : Rules.MailReader}

/-- The message that an invalid chain asks for when it is refused. -/
def Run.refusalCall (w : World) (i : Nat) : Call :=
  ⟨.text invalidKey,[("attribute",.text ((w.node i).field.getD generalField)),
    ("errors",.list ((w.errors i).map .text))]⟩

namespace Event

/-- The message that an event asks for. A check that passes asks for none. -/
def call? : Event → Option Call
  | .check _ _ true _ _ _ => none
  | .check w i false message rule fields => some (Run.failureCall w i message rule fields)
  | .refusal w i => some (Run.refusalCall w i)

/-- What a failed check says, if there are words for its message. -/
def says? (t : Translator) : Event → Option String
  | .check w i false message rule fields =>
      ((Run.failureCall w i message rule fields).wording? t).map
        (Run.fieldLabel (w.node i) ++ ·)
  | _ => none

/-- A check that fails: it asks for its message once, and is recorded or thrown with it. It
is a fault if there is no translation and the key is no text. Named values of a rule follow
those of all checks; one that is among those already keeps the place. -/
structure Fails (σ : Setting) (w : World) (i : Nat) (message : Value) (rule : String)
    (fields : Named Value) (e : Event) (c : Call) : Prop where
  lt : i < w.nodes.size
  key : c.key = if message.truth then message else .text rule
  context : (Named.names fields).Nodup → c.context =
    ((Run.checkContext w (w.node i) rule).map fun f =>
      (f.1,(Named.get? f.1 fields).getD f.2)) ++ fields.filter fun f =>
        !(["rule","result","value","attribute","sensitive"].contains f.1)
  recorded : σ.throwEarly = false → ∀ m, e.says? σ.translator = some m →
    (Run.check σ i false message rule fields).exec w =
      (.ok (),(w.ask c).addCheck i (.failed m))
  thrown : σ.throwEarly = true → ∀ m, e.says? σ.translator = some m →
    (Run.check σ i false message rule fields).exec w =
      (.error (.failedCheck m rule (w.node i).field),w.ask c)
  wordless : e.says? σ.translator = none →
    (Run.check σ i false message rule fields).exec w = (.error (.fault .wrongKind),w.ask c)

/-- What an event comes to in its world. -/
def Settled (σ : Setting) : Event → Prop
  | .check w i true message rule fields => i < w.nodes.size ∧
      (Run.check σ i true message rule fields).exec w =
        (.ok (),w.addCheck i (.passed (Run.messageKey message rule)))
  | .check w i false message rule fields =>
      Fails σ w i message rule fields (.check w i false message rule fields)
        (Run.failureCall w i message rule fields)
  | .refusal w i => w.valid i = false ∧ ∃ m, ((Run.validate σ i).exec w).1 =
      .error (.invalid m ((w.node i).field.getD Run.generalField) (w.errors i))

/-- The failure with which an event puts an end to an operation. -/
def Raises (σ : Setting) : Event → Failure → Prop
  | .check w i false message rule fields,f => σ.throwEarly = true ∧ ∃ m,
      (Event.check w i false message rule fields).says? σ.translator = some m ∧
        f = .failedCheck m rule (w.node i).field
  | .refusal w i,f =>
      ∃ m, f = .invalid m ((w.node i).field.getD Run.generalField) (w.errors i)
  | _,_ => False

end Event

/-- How a run with these events comes to its end: with the failure that the last of them
raises, or without any of them raising one, and then not as checks and validations fail. -/
inductive Ends (σ : Setting) {α : Type} : List Event → Except Failure α → Prop
  | raised {es : List Event} {e : Event} {f : Failure} : (∀ d ∈ es, ∀ g, ¬ d.Raises σ g) →
      e.Raises σ f → Ends σ (es ++ [e]) (.error f)
  | unraised {es : List Event} {r : Except Failure α} : (∀ e ∈ es, ∀ f, ¬ e.Raises σ f) →
      Reserved r → Ends σ es r

theorem Ends.only {σ : Setting} {α : Type} {e : Event} {f : Failure} (h : e.Raises σ f) :
    Ends σ [e] (.error f : Except Failure α) :=
  @Ends.raised σ α [] e f (by simp) h

/-- Words can be asked for: there is a translation, or none, but no fault. -/
def Translator.Total (t : Translator) : Prop :=
  ∀ key context, ∃ s, t.translate key context = .ok s

namespace Run
variable {σ : Setting} {w u : World} {i : Nat}

theorem failureCall_context (w : World) (i : Nat) (message : Value) (rule : String)
    {fields : Named Value} (h : (Named.names fields).Nodup) :
    (failureCall w i message rule fields).context =
      ((checkContext w (w.node i) rule).map fun f =>
        (f.1,(Named.get? f.1 fields).getD f.2)) ++ fields.filter fun f =>
          !(["rule","result","value","attribute","sensitive"].contains f.1) := by
  have hnames : Named.names (checkContext w (w.node i) rule) =
      ["rule","result","value","attribute","sensitive"] := rfl
  rw [failureCall,Named.overlay_eq (by rw [hnames]; decide) h,hnames]

/-- Where there are words for its message, a failing check fails with them. -/
theorem exec_check_worded {message : Value} {rule : String} {fields : Named Value}
    {s : String}
    (h : (failureCall w i message rule fields).wording? σ.translator = some s) :
    (check σ i false message rule fields).exec w =
      (check.fail σ i rule (w.node i) s).exec
        (w.ask (failureCall w i message rule fields)) := by
  simp only [failureCall,Call.wording?] at h
  simp only [failureCall,check,Bool.false_eq_true,if_false,exec_bind,exec_get,
    exec_translate,World.ask]
  generalize Named.overlay (checkContext w (w.node i) rule) fields = context at h ⊢
  generalize messageKey message rule = key at h ⊢
  split at h
  · rename_i ht
    cases h
    rw [ht]
    rfl
  · rename_i ht
    cases h
    rw [ht]
    rfl
  · cases h

/-- Where there are none, it fails with a fault. -/
theorem exec_check_wordless (hσ : σ.translator.Total) {message : Value} {rule : String}
    {fields : Named Value}
    (h : (failureCall w i message rule fields).wording? σ.translator = none) :
    (check σ i false message rule fields).exec w =
      (.error (.fault .wrongKind),w.ask (failureCall w i message rule fields)) := by
  simp only [failureCall,Call.wording?] at h
  simp only [failureCall,check,Bool.false_eq_true,if_false,exec_bind,exec_get,
    exec_translate,World.ask]
  generalize Named.overlay (checkContext w (w.node i) rule) fields = context at h ⊢
  generalize messageKey message rule = key at h ⊢
  obtain ⟨translated,ht⟩ := hσ key context
  rw [ht] at h ⊢
  cases translated with
  | some s => cases h
  | none =>
      cases key with
      | text s => cases h
      | _ => rfl

theorem exec_validate_refused (hσ : σ.translator.Total) (h : w.valid i = false) :
    ∃ m, ((validate σ i).exec w).1 =
        .error (.invalid m ((w.node i).field.getD generalField) (w.errors i)) ∧
      ((validate σ i).exec w).2.nodes = w.nodes ∧
      ((validate σ i).exec w).2.calls = w.calls.push (refusalCall w i) := by
  obtain ⟨translated,ht⟩ := hσ (refusalCall w i).key (refusalCall w i).context
  have ht' := exec_translate σ (refusalCall w i).key (refusalCall w i).context w
  rw [ht] at ht'
  unfold validate
  rw [exec_bind_of_ok (exec_get w)]
  dsimp only
  rw [h,if_neg Bool.false_ne_true]
  rw [refusalCall] at ht'
  rw [exec_bind_of_ok ht']
  exact ⟨_,rfl,rfl,rfl⟩

theorem check_settled (hσ : σ.translator.Total) (hi : i < w.nodes.size) (passed : Bool)
    (message : Value) (rule : String) (fields : Named Value) :
    (Event.check w i passed message rule fields).Settled σ := by
  cases passed with
  | true => exact ⟨hi,rfl⟩
  | false =>
      have hwords : ∀ m,
          (Event.check w i false message rule fields).says? σ.translator = some m →
          ∃ s, (failureCall w i message rule fields).wording? σ.translator = some s ∧
            fieldLabel (w.node i) ++ s = m :=
        fun m hm => Option.map_eq_some_iff.mp hm
      constructor
      · exact hi
      · rfl
      · exact failureCall_context w i message rule
      · intro hearly m hm
        obtain ⟨s,hs,rfl⟩ := hwords m hm
        rw [exec_check_worded hs,check.fail,hearly]
        rfl
      · intro hearly m hm
        obtain ⟨s,hs,rfl⟩ := hwords m hm
        rw [exec_check_worded hs,check.fail,hearly]
        rfl
      · intro hnone
        exact exec_check_wordless hσ (Option.map_eq_none_iff.mp hnone)

/-- What a check leaves: the message asked for if it fails, and one check more at most,
which says what its event says. -/
theorem check_leaves (hσ : σ.translator.Total) (hi : i < w.nodes.size) (passed : Bool)
    (message : Value) (rule : String) (fields : Named Value) :
    let e : Event := .check w i passed message rule fields
    let u := ((check σ i passed message rule fields).exec w).2
    u.calls.toList = w.calls.toList ++ e.call?.toList ∧
      (u.nodes = w.nodes ∨ ∃ c, u.nodes = (w.addCheck i c).nodes ∧
        ∀ m, c = .failed m → e.says? σ.translator = some m) := by
  intro e u
  have hsettled := check_settled hσ hi passed message rule fields
  cases passed with
  | true =>
      have hu : u = w.addCheck i (.passed (messageKey message rule)) :=
        congrArg Prod.snd hsettled.2
      rw [hu]
      exact ⟨(List.append_nil _).symm,Or.inr ⟨_,rfl,nofun⟩⟩
  | false =>
      have hcalls : (w.ask (failureCall w i message rule fields)).calls.toList =
          w.calls.toList ++ e.call?.toList := Array.toList_push
      cases hs : e.says? σ.translator with
      | none =>
          have hu : u = w.ask (failureCall w i message rule fields) :=
            congrArg Prod.snd (hsettled.wordless hs)
          rw [hu]
          exact ⟨hcalls,Or.inl rfl⟩
      | some m =>
          cases hearly : σ.throwEarly with
          | true =>
              have hu : u = w.ask (failureCall w i message rule fields) :=
                congrArg Prod.snd (hsettled.thrown hearly m hs)
              rw [hu]
              exact ⟨hcalls,Or.inl rfl⟩
          | false =>
              have hu : u =
                  (w.ask (failureCall w i message rule fields)).addCheck i (.failed m) :=
                congrArg Prod.snd (hsettled.recorded hearly m hs)
              rw [hu]
              refine ⟨hcalls,Or.inr ⟨.failed m,rfl,?_⟩⟩
              intro m' hm
              rw [Check.failed.inj hm]

/-! ## Along a course -/

namespace Course
variable {α : Type} {x : Run α} {es fs : List Event} {r : Except Failure α}

/-- By induction on the course: the messages asked for are those of the events. -/
theorem calls_eq (hσ : σ.translator.Total) (h : Course σ x w es r u) :
    u.calls.toList = w.calls.toList ++ es.filterMap Event.call? := by
  induction h with
  | value w _ => simp
  | get w => simp
  | quiet _ hq => simp [hq]
  | node _ => simp
  | check passed message rule fields hi =>
      rw [(check_leaves hσ hi passed message rule fields).1,List.filterMap_cons]
      cases (Event.check _ _ passed message rule fields).call? <;> rfl
  | passing hv => simp
  | refusing hv =>
      obtain ⟨m,-,-,hcalls⟩ := exec_validate_refused hσ hv
      rw [hcalls,Array.toList_push]
      rfl
  | ahead _ _ ihx ihf => rw [ihf,ihx,List.filterMap_append,List.append_assoc]
  | halted _ ih => exact ih

theorem settled (hσ : σ.translator.Total) (h : Course σ x w es r u) :
    ∀ e ∈ es, e.Settled σ := by
  induction h with
  | value w _ => simp
  | get w => simp
  | quiet _ _ => simp
  | node _ => simp
  | check passed message rule fields hi =>
      intro e he
      rw [List.mem_singleton.mp he]
      exact check_settled hσ hi passed message rule fields
  | passing _ => simp
  | refusing hv =>
      intro e he
      obtain ⟨m,hm,-⟩ := exec_validate_refused hσ hv
      rw [List.mem_singleton.mp he]
      exact ⟨hv,m,hm⟩
  | ahead _ _ ihx ihf =>
      intro e he
      cases List.mem_append.mp he with
      | inl h => exact ihx e h
      | inr h => exact ihf e h
  | halted _ ih => exact ih

/-- By induction on the course: only the last event of a run raises a failure. -/
theorem ends (hσ : σ.translator.Total) (h : Course σ x w es r u) : Ends σ es r := by
  induction h with
  | value w hr => exact .unraised (by simp) hr
  | get w => exact .unraised (by simp) (.ok w)
  | quiet _ _ => exact .unraised (by simp) (.ok _)
  | node _ => exact .unraised (by simp) (.ok _)
  | @check w i passed message rule fields hi =>
      have hsettled := check_settled hσ hi passed message rule fields
      cases passed with
      | true => exact .unraised (by simp [Event.Raises]) (.ok ())
      | false =>
          cases hs : (Event.check w i false message rule fields).says? σ.translator with
          | none =>
              rw [hsettled.wordless hs]
              exact .unraised (by simp [Event.Raises,hs]) (.fault _)
          | some m =>
              cases hearly : σ.throwEarly with
              | true =>
                  rw [hsettled.thrown hearly m hs]
                  exact .only ⟨hearly,m,hs,rfl⟩
              | false =>
                  rw [hsettled.recorded hearly m hs]
                  exact .unraised (by simp [Event.Raises,hearly]) (.ok ())
  | passing _ => exact .unraised (by simp) (.ok _)
  | refusing hv =>
      obtain ⟨m,hm,-⟩ := exec_validate_refused hσ hv
      rw [hm]
      exact .only ⟨m,rfl⟩
  | ahead _ _ ihx ihf =>
      -- The first run has come to a result, so none of its events has raised anything.
      cases ihx with
      | unraised hx _ =>
          have hboth : ∀ {fs : List Event}, (∀ d ∈ fs, ∀ g, ¬ d.Raises σ g) →
              ∀ d ∈ _ ++ fs, ∀ g, ¬ d.Raises σ g :=
            fun hf => List.forall_mem_append.mpr ⟨hx,hf⟩
          cases ihf with
          | raised hf he =>
              rw [← List.append_assoc]
              exact .raised (hboth hf) he
          | unraised hf hr => exact .unraised (hboth hf) hr
  | halted _ ih =>
      cases ih with
      | raised hes he => exact .raised hes he
      | unraised hes hr => exact .unraised hes (.error (hr _ rfl))

end Course

end Run

/-- Whatever is recorded as a failure is what an event says. -/
def Explains (t : Translator) (es : List Event) (w : World) : Prop :=
  ∀ i < w.nodes.size, ∀ m, .failed m ∈ (w.node i).checks → ∃ e ∈ es, e.says? t = some m

namespace Explains
variable {t : Translator} {es : List Event} {w u : World} {i : Nat}

theorem empty (t : Translator) : Explains t [] .empty := by
  intro i hi
  simp [World.empty] at hi

theorem append (h : Explains t es w) (fs : List Event) : Explains t (es ++ fs) w := by
  intro i hi m hm
  obtain ⟨e,he,hs⟩ := h i hi m hm
  exact ⟨e,List.mem_append_left fs he,hs⟩

theorem of_nodes_eq (h : Explains t es w) (hn : u.nodes = w.nodes) : Explains t es u := by
  intro i hi m hm
  rw [World.node_eq_of_nodes_eq hn] at hm
  exact h i (hn ▸ hi) m hm

theorem pushNode {n : Node} (h : Explains t es w) (hn : u.nodes = w.nodes.push n)
    (hc : n.checks = [] ∨ ∃ i < w.nodes.size, n.checks = (w.node i).checks) :
    Explains t es u := by
  intro i hi m hm
  rw [World.node_push hn] at hm
  split at hm
  · cases hc with
    | inl hnil =>
        rw [hnil] at hm
        cases hm
    | inr hcopy =>
        obtain ⟨j,hj,hchecks⟩ := hcopy
        rw [hchecks] at hm
        exact h j hj m hm
  · rw [hn,Array.size_push] at hi
    exact h i (by omega) m hm

/-- A check more, said by an event more. -/
theorem addCheck {e : Event} {c : Check} (h : Explains t es w)
    (hn : u.nodes = (w.addCheck i c).nodes) (hc : ∀ m, c = .failed m → e.says? t = some m) :
    Explains t (es ++ [e]) u := by
  intro j hj m hm
  rw [World.node_eq_of_nodes_eq hn] at hm
  rw [hn,World.size_addCheck] at hj
  by_cases hji : j = i
  · rw [hji] at hj hm
    rw [World.node_addCheck_self hj] at hm
    cases List.mem_append.mp hm with
    | inl hold => exact h.append [e] i hj m hold
    | inr hnew =>
        have hcm := List.mem_singleton.mp hnew
        exact ⟨e,by simp,hc m hcm.symm⟩
  · rw [World.node_addCheck_of_ne hji] at hm
    exact h.append [e] j hj m hm

end Explains

/-- By induction on the course: nothing is recorded as a failure but what its events say. -/
theorem Run.Course.explains {σ : Setting} {α : Type} {x : Run α} {es fs : List Event}
    {r : Except Failure α} {w u : World} (hσ : σ.translator.Total)
    (hc : Course σ x w fs r u) (h : Explains σ.translator es w) :
    Explains σ.translator (es ++ fs) u := by
  induction hc generalizing es with
  | value w _ => exact h.append []
  | get w => exact h.append []
  | quiet hn _ => exact (h.append []).of_nodes_eq hn
  | node hn => exact (h.append []).pushNode rfl hn
  | check passed message rule fields hi =>
      obtain ⟨-,hnodes | ⟨c,hnodes,hwords⟩⟩ := check_leaves hσ hi passed message rule fields
      · exact (h.append _).of_nodes_eq hnodes
      · exact h.addCheck hnodes hwords
  | passing hv => exact h.append []
  | refusing hv =>
      obtain ⟨m,-,hnodes,-⟩ := exec_validate_refused hσ hv
      exact (h.append _).of_nodes_eq hnodes
  | ahead _ _ ihx ihf =>
      rw [← List.append_assoc]
      exact ihf (ihx h)
  | halted _ ih => exact ih h

/-! ## Along a history -/

/-- Something done in a history: what happened on the way and what it came to. -/
structure Deed where
  events : List Event
  result : Except Failure Nat

/-- The deeds of a history that has come to a world, each with the course of its run. -/
inductive Chronicle (σ : Setting) : List Deed → World → Prop
  | empty : Chronicle σ [] .empty
  | seed {ds : List Deed} {es : List Event} {w u : World} {r : Except Failure Nat} (o : Operand)
      (field : Option String) (sensitive : Bool) : Chronicle σ ds w →
      Run.Course σ (Run.seedOn o field sensitive) w es r u → Chronicle σ (ds ++ [⟨es,r⟩]) u
  | operate {ds : List Deed} {es : List Event} {w u : World} {i : Nat}
      {r : Except Failure Nat} (op : Operation) : Chronicle σ ds w → i < w.nodes.size →
      Run.Course σ (op.run σ i) w es r u → Chronicle σ (ds ++ [⟨es,r⟩]) u

/-- Every history has its chronicle. -/
theorem Later.exists_chronicle {σ : Setting} {w : World} (hσ : σ.registry.Reserved)
    (h : Later σ .empty w) : ∃ ds, Chronicle σ ds w := by
  induction h with
  | refl => exact ⟨[],.empty⟩
  | @seed u o field sensitive _ ih =>
      obtain ⟨ds,hds⟩ := ih
      obtain ⟨es,r,x,hc⟩ := Run.seedOn_course (σ := σ) (w := u) o field sensitive
      rw [hc.exec_eq]
      exact ⟨_,.seed o field sensitive hds hc⟩
  | @operate u i op hu hi ih =>
      obtain ⟨ds,hds⟩ := ih
      have hs := (hu.extends_sound World.sound_empty).2
      obtain ⟨es,r,x,hc⟩ := op.run_course hσ (hs i hi)
      rw [hc.exec_eq]
      exact ⟨_,.operate op hds hi hc⟩

/-- A world accounted for by deeds: their events have asked for its messages one by one and
have come to what they should, the deeds end as their events have it, and all that is
recorded as a failure is what an event says. -/
structure Accounts (σ : Setting) (ds : List Deed) (w : World) : Prop where
  calls : w.calls.toList = (ds.flatMap Deed.events).filterMap Event.call?
  settled : ∀ e ∈ ds.flatMap Deed.events, e.Settled σ
  ends : ∀ d ∈ ds, Ends σ d.events d.result
  recorded : Explains σ.translator (ds.flatMap Deed.events) w

namespace Accounts
variable {σ : Setting}

theorem empty (σ : Setting) : Accounts σ [] .empty := ⟨rfl,by simp,by simp,.empty _⟩

/-- The step: what is done next is accounted for by its events. -/
theorem course {x : Run Nat} {ds : List Deed} {es : List Event} {r : Except Failure Nat}
    {w u : World} (hσ : σ.translator.Total) (h : Accounts σ ds w)
    (hc : Run.Course σ x w es r u) : Accounts σ (ds ++ [⟨es,r⟩]) u := by
  have hevents : (ds ++ [Deed.mk es r]).flatMap Deed.events = ds.flatMap Deed.events ++ es := by
    simp
  constructor
  · rw [hevents,hc.calls_eq hσ,h.calls,List.filterMap_append]
  · rw [hevents]
    exact List.forall_mem_append.mpr ⟨h.settled,hc.settled hσ⟩
  · have hlast : ∀ d ∈ [Deed.mk es r], Ends σ d.events d.result := by
      intro d hd
      rw [List.mem_singleton.mp hd]
      exact hc.ends hσ
    exact List.forall_mem_append.mpr ⟨h.ends,hlast⟩
  · rw [hevents]
    exact hc.explains hσ h.recorded

end Accounts

/-- The run: by induction on the chronicle. -/
theorem Chronicle.accounts {σ : Setting} {ds : List Deed} {w : World}
    (hσ : σ.translator.Total) (h : Chronicle σ ds w) : Accounts σ ds w := by
  induction h with
  | empty => exact .empty σ
  | seed o field sensitive _ hc ih => exact ih.course hσ hc
  | operate op _ _ hc ih => exact ih.course hσ hc

/-- In every history with the standard rules the messages asked for are those of its failing
checks and of its refusals of invalid chains, one for each and in their order, whether
failures are thrown or not. -/
theorem messages_of_failures {t : Translator} {early : Bool} {w : World} (ht : t.Total)
    (h : Later ⟨Rules.standard mail,t,early⟩ .empty w) :
    (∃ ds, Chronicle ⟨Rules.standard mail,t,early⟩ ds w) ∧
      ∀ ds, Chronicle ⟨Rules.standard mail,t,early⟩ ds w →
        Accounts ⟨Rules.standard mail,t,early⟩ ds w := by
  constructor
  · exact h.exists_chronicle (Rules.standard_reserved mail)
  · intro ds hds
    exact hds.accounts ht

/-- A check that fails on a chain for an age, one that passes, and the refusal of the chain
ask for two messages. -/
theorem messages_of_failures_age :
    let σ : Setting := ⟨Rules.standard .none,.silent,false⟩
    let seeded := ((Run.seed (.int 5) (some "age") false).exec .empty).2
    let failed := (((Operation.check (.bool false) .null "adult" []).run σ 0).exec seeded).2
    let passed := (((Operation.check (.bool true) .null "seen" []).run σ 0).exec failed).2
    let w := (((Operation.validate).run σ 0).exec passed).2
    Translator.Total .silent ∧ Later σ .empty w ∧
      w.calls.toList.map Call.key = [.text "adult",.text "validate"] ∧
      (w.node 0).checks = [.failed "age: adult",.passed (.text "seen")] ∧
      (∃ ds, Chronicle σ ds w) ∧ ∀ ds, Chronicle σ ds w → Accounts σ ds w := by
  intro σ seeded failed passed w
  have hσ : Translator.Total .silent := fun _ _ => ⟨none,rfl⟩
  have hchecks : (passed.node 0).checks = [.failed "age: adult",.passed (.text "seen")] := by
    with_unfolding_all rfl
  have hasked : passed.calls.toList.map Call.key = [.text "adult"] := by
    with_unfolding_all rfl
  have hseeded : Later σ .empty seeded := .seed (.new (.int 5)) (some "age") false .refl
  have hfailed : Later σ .empty failed :=
    .operate (.check (.bool false) .null "adult" []) hseeded (i := 0) (by decide)
  have hpassed : Later σ .empty passed :=
    .operate (.check (.bool true) .null "seen" []) hfailed (i := 0) (by decide)
  have hw : Later σ .empty w := .operate .validate hpassed (i := 0) (by decide)
  have hvalid : passed.valid 0 = false := by
    have hroot : (passed.node 0).parent = none := by
      with_unfolding_all rfl
    rw [World.valid,World.lineage_of_root hroot,List.any_cons,Node.isClean,Node.hasErrors,
      hchecks]
    rfl
  have hrefused : ∃ m, _ ∧ w.nodes = passed.nodes ∧
      w.calls = passed.calls.push (Run.refusalCall passed 0) :=
    Run.exec_validate_refused (σ := σ) hσ hvalid
  obtain ⟨m,-,hnodes,hcalls⟩ := hrefused
  have hkeys : w.calls.toList.map Call.key = [.text "adult",.text "validate"] := by
    rw [hcalls,Array.toList_push,List.map_append,hasked]
    rfl
  have hrecorded : (w.node 0).checks = [.failed "age: adult",.passed (.text "seen")] := by
    rw [World.node_eq_of_nodes_eq hnodes,hchecks]
  exact ⟨hσ,hw,hkeys,hrecorded,messages_of_failures hσ hw⟩

end Vetting
