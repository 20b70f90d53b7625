import Vetting.Proofs.Chain.Policy
import Vetting.Proofs.Rules.Discreet

/-!
# The first failure

An expression is run on a fresh chain twice, once with failures thrown at once and once
with failures collected. Up to the first failing check the two runs are one and the same,
so that without one they leave the same world. Otherwise the first run stops there: it
fails with the message that the second run records, having recorded what the second run
recorded before and asked for that one message.

Only the last node of a world is worked on, and as long as nothing has failed it is clean
and so are all nodes of the chain. `Run.Shadows` carries this along: either both runs are
still ahead of the first failure, or one has stopped and the other goes on in the scope of
the node that failed.
-/
namespace Vetting
variable {mail : Rules.MailReader}

/-- The words that a translator has for a message. Where it has none, the key stands in. -/
def Call.wording? (t : Translator) (c : Call) : Option String :=
  match t.translate c.key c.context,c.key with
  | .ok (some s),_ => some s
  | .ok none,.text s => some s
  | _,_ => none

theorem Node.isClean_iff {n : Node} :
    n.isClean = true ↔ ∀ c ∈ n.checks, c.hasPassed = true := by
  simp [Node.isClean,Node.hasErrors]

namespace World
variable {w u v : World} {i j : Nat}

theorem valid_of_isClean (h : (w.node i).isClean = true) : w.valid i = true := by
  rw [valid,lineage_eq_cons,List.any_cons,h,Bool.true_or]

/-- The first failed check that `u` has and `w` had not: it is on node `i`, after the
checks `before` that all passed, and says `m`. No earlier node has a failed check. -/
structure FirstFailure (w u : World) (i : Nat) (before : List Check) (m : String) :
    Prop where
  new : w.nodes.size ≤ i
  lt : i < u.nodes.size
  earlier : ∀ j, w.nodes.size ≤ j → j < i → (u.node j).isClean = true
  passed : ∀ c ∈ before, c.hasPassed = true
  checks : ∃ after, (u.node i).checks = before ++ .failed m :: after

/-- `v` is where a run from `w` to `u` would have stopped at its first failure: what has
been recorded there is what `u` recorded before, and the messages asked for are those
that `u` asked for up to that of the failure, which names the rule and the field. -/
structure StopsAt (t : Translator) (w u v : World) (i : Nat) (before : List Check)
    (m rule : String) : Prop where
  first : w.FirstFailure u i before m
  size : v.nodes.size = i+1
  earlier : ∀ j < i, v.node j = u.node j
  own : v.node i = { u.node i with checks := before }
  cells : ∀ c < v.cells.size, v.cell c = u.cell c
  call : ∃ c, v.calls = w.calls.push c ∧ v.calls.toList <+: u.calls.toList ∧
    (∃ s, c.wording? t = some s ∧ m = Run.fieldLabel (u.node i) ++ s) ∧
    Named.get? "rule" c.context = some (.text rule) ∧
    Named.get? "attribute" c.context = some (optionText (u.node i).field)

/-- A world that has asked for one message more. -/
def ask (w : World) (c : Call) : World := { w with calls := w.calls.push c }

theorem extends_ask (w : World) (c : Call) : w.Extends .all (w.ask c) :=
  .of_eq rfl rfl (by simp [ask])

/-- Nothing has failed since `w`: all new nodes are clean, the last one is the one to work
on, and no message has been asked for. -/
structure Ahead (w u : World) (i : Nat) : Prop where
  holds : u.Holds i
  last : u.nodes.size = i+1
  new : w.nodes.size ≤ i
  clean : ∀ j, w.nodes.size ≤ j → (u.node j).isClean = true
  calls : u.calls = w.calls

namespace Ahead

theorem of_eq (h : w.Ahead u i) (hn : v.nodes = u.nodes) (hc : v.cells = u.cells)
    (hq : v.calls = u.calls) : w.Ahead v i := by
  have hv : u.Extends .all v := .of_eq hn hc (by simp [hq])
  refine ⟨h.holds.extend hv,?_,h.new,?_,hq.trans h.calls⟩
  · rw [hn]
    exact h.last
  · intro j hj
    rw [node_eq_of_nodes_eq hn]
    exact h.clean j hj

/-- A check that passes leaves a node clean. -/
theorem addCheck (h : w.Ahead u i) (label : Value) :
    w.Ahead (u.addCheck i (.passed label)) i := by
  have hv : u.Extends .all (u.addCheck i (.passed label)) := .addCheck trivial _
  refine ⟨h.holds.extend hv,?_,h.new,?_,h.calls⟩
  · rw [size_addCheck]
    exact h.last
  · intro j hj
    by_cases hji : j = i
    · have hi := Node.isClean_iff.mp (h.clean i h.new)
      rw [hji,node_addCheck_self h.holds.lt,Node.isClean_iff]
      intro c hc
      rcases List.mem_append.mp hc with hc | hc
      · exact hi c hc
      · rw [List.mem_singleton.mp hc]
        rfl
    · rw [node_addCheck_of_ne hji]
      exact h.clean j hj

/-- A new node that is clean becomes the one to work on. -/
theorem pushNode {n : Node} (h : w.Ahead u i) (hv : v.Holds j) (hj : j = u.nodes.size)
    (hn : v.nodes = u.nodes.push n) (hq : v.calls = u.calls) (hc : n.isClean = true) :
    w.Ahead v j := by
  have hlast := h.last
  have hnew := h.new
  refine ⟨hv,?_,by omega,?_,hq.trans h.calls⟩
  · rw [hn,Array.size_push,hj]
  · intro k hk
    rw [node_push hn]
    split
    · exact hc
    · exact h.clean k hk

end Ahead

end World

namespace Run
variable {t : Translator} {ρ : Registry Rule} {w u v : World} {i : Nat}

/-- A run has stopped at a failing check of node `i` in `v`, and one that collects
failures has gone on from there, on that node or on new ones. -/
structure Halts (t : Translator) (w v : World) (i : Nat) (m rule : String)
    (r : Except Failure Nat × World) : Prop where
  lt : i < v.nodes.size
  last : v.nodes.size = i+1
  new : w.nodes.size ≤ i
  clean : ∀ j, w.nodes.size ≤ j → (v.node j).isClean = true
  call : ∃ c, v.calls = w.calls.push c ∧
    (∃ s, c.wording? t = some s ∧ m = fieldLabel (v.node i) ++ s) ∧
    Named.get? "rule" c.context = some (.text rule) ∧
    Named.get? "attribute" c.context = some (optionText (v.node i).field)
  goes_on : (v.addCheck i (.failed m)).Extends (v.scope i) r.2
  result : ∀ j, r.1 = .ok j → Reaches (v.scope i) j r.2

/-- What a run that throws failures leaves, and what the same run leaves that collects
them. -/
inductive Shadows (t : Translator) (w : World) :
    Except Failure Nat × World → Except Failure Nat × World → Prop
  | ok {j : Nat} {v : World} : w.Ahead v j → Shadows t w (.ok j,v) (.ok j,v)
  | error {f : Failure} {v : World} :
      (∀ j, w.nodes.size ≤ j → (v.node j).isClean = true) →
        Shadows t w (.error f,v) (.error f,v)
  | halted {i : Nat} {v : World} {m rule : String} {r : Except Failure Nat × World} :
      Halts t w v i m rule r →
        Shadows t w (.error (.failedCheck m rule (v.node i).field),v) r

/-- Once a run has stopped, nothing of what comes later is done in it; the other one goes
on without leaving the scope of the node that failed. -/
theorem Shadows.bind {x y : Run Nat} {f g : Nat → Run Nat}
    (hxy : Shadows t w (x.exec u) (y.exec u))
    (hfg : ∀ j v, w.Ahead v j → Shadows t w ((f j).exec v) ((g j).exec v))
    (hg : ∀ (S : Scope) (v : World) (j : Nat), S.OpenFrom v.nodes.size → Reaches S j v →
      Steady S v (g j) (Reaches S)) :
    Shadows t w ((x >>= f).exec u) ((y >>= g).exec u) := by
  rw [exec_bind,exec_bind]
  generalize x.exec u = r at hxy ⊢
  generalize y.exec u = s at hxy ⊢
  cases hxy with
  | ok h => exact hfg _ _ h
  | error h => exact .error h
  | @halted i v m rule r h =>
      obtain ⟨r,x⟩ := s
      refine .halted ?_
      cases r with
      | error e => exact ⟨h.lt,h.last,h.new,h.clean,h.call,h.goes_on,fun _ h => nomatch h⟩
      | ok j =>
          have hle := h.goes_on.nodes_le
          rw [World.size_addCheck] at hle
          have hs := hg (v.scope i) x j ((v.openFrom_scope i).mono hle) (h.result j rfl)
          exact ⟨h.lt,h.last,h.new,h.clean,h.call,h.goes_on.trans hs.world,hs.result⟩

theorem exec_fail_thrown (ρ : Registry Rule) (t : Translator) (i : Nat) (rule : String)
    (n : Node) (s : String) (w : World) :
    (check.fail ⟨ρ,t,true⟩ i rule n s).exec w =
      (.error (.failedCheck (fieldLabel n ++ s) rule n.field),w) := rfl

theorem exec_fail_added (ρ : Registry Rule) (t : Translator) (i : Nat) (rule : String)
    (n : Node) (s : String) (w : World) :
    (check.fail ⟨ρ,t,false⟩ i rule n s).exec w =
      (.ok (),w.addCheck i (.failed (fieldLabel n ++ s))) := rfl

/-- The context of a failed check keeps its rule and its field, whatever plain values the
rule brings along. -/
theorem checkContext_names {fields : Named Value} (h : PlainFields fields) (u : World)
    (n : Node) (rule : String) :
    Named.get? "rule" (Named.overlay (checkContext u n rule) fields) = some (.text rule) ∧
      Named.get? "attribute" (Named.overlay (checkContext u n rule) fields) =
        some (optionText n.field) := by
  have hx : ∀ name : String, name ≠ "x" → name ≠ "y" →
      Named.get? name (Named.overlay (checkContext u n rule) fields) =
        Named.get? name (checkContext u n rule) :=
    fun name hx hy => h.get?_overlay hx hy _
  constructor
  · rw [hx "rule" (by simp) (by simp)]
    simp [checkContext,Named.get?]
  · rw [hx "attribute" (by simp) (by simp)]
    simp [checkContext,Named.get?]

/-- The message that a failing check asks for. -/
def failureCall (w : World) (i : Nat) (message : Value) (rule : String)
    (fields : Named Value) : Call :=
  ⟨messageKey message rule,Named.overlay (checkContext w (w.node i) rule) fields⟩

/-- A failing check asks for its message and then, unless this runs into a fault, fails
with it, whether failures are thrown or not. -/
theorem exec_check_failed (ρ : Registry Rule) (t : Translator) (u : World) (i : Nat)
    (message : Value) (rule : String) (fields : Named Value) :
    let c := failureCall u i message rule fields
    (∃ f, ∀ b, (check ⟨ρ,t,b⟩ i false message rule fields).exec u =
        (.error (.fault f),u.ask c)) ∨
      ∃ s, c.wording? t = some s ∧
        ∀ b, (check ⟨ρ,t,b⟩ i false message rule fields).exec u =
          (check.fail ⟨ρ,t,b⟩ i rule (u.node i) s).exec (u.ask c) := by
  simp only [failureCall,check,Bool.false_eq_true,if_false,exec_bind,exec_get,exec_translate,
    World.ask,Call.wording?]
  generalize Named.overlay (checkContext u (u.node i) rule) fields = context
  generalize messageKey message rule = key
  cases t.translate key context with
  | error f => exact Or.inl ⟨f,fun _ => rfl⟩
  | ok translated =>
      cases translated with
      | some s => exact Or.inr ⟨s,rfl,fun _ => rfl⟩
      | none =>
          cases key with
          | text s => exact Or.inr ⟨s,rfl,fun _ => rfl⟩
          | _ => exact Or.inl ⟨.wrongKind,fun _ => rfl⟩

/-- The message asked for names the rule and the field. -/
theorem check_asks (ρ : Registry Rule) (t : Translator) (u : World) (i : Nat)
    {message : Value} {rule : String} {fields : Named Value} (h : PlainFields fields) :
    ∃ c : Call, Named.get? "rule" c.context = some (.text rule) ∧
      Named.get? "attribute" c.context = some (optionText (u.node i).field) ∧
      ((∃ f, ∀ b, (check ⟨ρ,t,b⟩ i false message rule fields).exec u =
          (.error (.fault f),u.ask c)) ∨
        ∃ s, c.wording? t = some s ∧
          ∀ b, (check ⟨ρ,t,b⟩ i false message rule fields).exec u =
            (check.fail ⟨ρ,t,b⟩ i rule (u.node i) s).exec (u.ask c)) := by
  obtain ⟨hrule,hfield⟩ := checkContext_names h u (u.node i) rule
  exact ⟨failureCall u i message rule fields,hrule,hfield,
    exec_check_failed ρ t u i message rule fields⟩

theorem derive_shadows {x : Value} (hi : w.Ahead u i) :
    Shadows t w ((derive i x).exec u) ((derive i x).exec u) := by
  have hd : (derive i x).exec u = (.ok u.nodes.size,_) := rfl
  obtain ⟨-,-,hh⟩ := (derive_steady (u.openFrom_scope i) hi.holds).of_ok hd
  rw [hd]
  exact .ok (hi.pushNode hh rfl rfl rfl (hi.clean i hi.new))

theorem fork_shadows (hi : w.Ahead u i) :
    Shadows t w ((fork i).exec u) ((fork i).exec u) := by
  have hd : (fork i).exec u = (.ok u.nodes.size,_) := rfl
  obtain ⟨-,-,hh⟩ := (fork_steady (u.openFrom_scope i) hi.holds).of_ok hd
  rw [hd]
  exact .ok (hi.pushNode hh rfl rfl rfl rfl)

/-- This is where the two runs part: at a failing check. -/
theorem conclude_shadows {o : Outcome} (hi : w.Ahead u i)
    (ho : ∀ passed message rule fields, o = .verdict passed message rule fields →
      PlainFields fields) :
    Shadows t w ((conclude ⟨ρ,t,true⟩ i o).exec u) ((conclude ⟨ρ,t,false⟩ i o).exec u) := by
  cases o with
  | replaced x => exact derive_shadows hi
  | verdict passed message rule fields =>
      cases passed with
      | true => exact .ok (hi.addCheck (messageKey message rule))
      | false =>
          have hb : ∀ b, (conclude ⟨ρ,t,b⟩ i (.verdict false message rule fields)).exec u =
              (check ⟨ρ,t,b⟩ i false message rule fields >>= fun _ => pure i).exec u :=
            fun _ => rfl
          rw [hb,hb,exec_bind,exec_bind]
          obtain ⟨c,hrule,hfield,hc⟩ := check_asks ρ t u i (ho _ _ _ _ rfl)
          rcases hc with ⟨f,hf⟩ | ⟨s,hs,hf⟩
          · rw [hf,hf]
            exact .error hi.clean
          · rw [hf,hf,exec_fail_thrown,exec_fail_added]
            have hh : ((u.ask c).addCheck i
                (.failed (fieldLabel (u.node i) ++ s))).Holds i :=
              (hi.holds.extend (u.extends_ask c)).extend (S := .all) (.addCheck trivial _)
            have hstop : Halts t w (u.ask c) i (fieldLabel (u.node i) ++ s) rule
                (.ok i,(u.ask c).addCheck i (.failed (fieldLabel (u.node i) ++ s))) := by
              refine ⟨hi.holds.lt,hi.last,hi.new,hi.clean,?_,.refl _ _,?_⟩
              · exact ⟨c,by rw [World.ask,hi.calls],⟨s,hs,rfl⟩,hrule,hfield⟩
              · rintro j ⟨⟩
                exact ⟨World.scope_self _ i,hh⟩
            exact .halted hstop

theorem apply_shadows (hρ : ρ.Discreet) {name : String} {args : List Value}
    {byName : Named Value} (hi : w.Ahead u i) :
    Shadows t w ((apply ⟨ρ,t,true⟩ i name args byName).exec u)
      ((apply ⟨ρ,t,false⟩ i name args byName).exec u) := by
  unfold apply applyUnder
  split
  · exact .error hi.clean
  · cases hr : ρ.get? name with
    | none => exact .error hi.clean
    | some r =>
        have hb : ∀ b, (do conclude ⟨ρ,t,b⟩ i (← ofExcept
            (r.call ((← get).value i) args byName)) : Run Nat).exec u =
            (ofExcept (r.call (u.value i) args byName) >>= conclude ⟨ρ,t,b⟩ i).exec u :=
          fun _ => rfl
        dsimp only
        rw [hb,hb,exec_bind,exec_bind,exec_ofExcept]
        cases ho : r.call (u.value i) args byName with
        | error e => exact .error hi.clean
        | ok o =>
            refine conclude_shadows hi ?_
            rintro passed message rule fields rfl
            exact ((hρ name r hr).call args byName).fields_plain ho

theorem applyStep_shadows (hρ : ρ.Discreet) {s : Step} (hi : w.Ahead u i) :
    Shadows t w ((applyStep ⟨ρ,t,true⟩ i s).exec u)
      ((applyStep ⟨ρ,t,false⟩ i s).exec u) := by
  unfold applyStep
  split
  · exact .ok hi
  · obtain ⟨v,hx,hn,hc,hq⟩ := exec_stepArguments ⟨ρ,t,true⟩ u (String.ofList s.name) s
    have hy : (stepArguments ⟨ρ,t,false⟩ (String.ofList s.name)
        (s.args.map fun a => .text (String.ofList a))).exec u = _ := hx
    rw [exec_bind_of_ok hx,exec_bind_of_ok hy]
    exact apply_shadows hρ (hi.of_eq hn hc hq)

/-- The induction is on the steps; the node that one step leaves is the last one again. -/
theorem steps_shadows (hρ : ρ.Discreet) {steps : List Step} (hi : w.Ahead u i) :
    Shadows t w ((steps.foldlM (applyStep ⟨ρ,t,true⟩) i).exec u)
      ((steps.foldlM (applyStep ⟨ρ,t,false⟩) i).exec u) := by
  induction steps generalizing i u with
  | nil => exact .ok hi
  | cons s rest ih =>
      rw [List.foldlM_cons,List.foldlM_cons]
      refine .bind (applyStep_shadows hρ hi) (fun j v hj => ih hj) ?_
      exact fun S v j hS hj => steps_steady hS hj.1 hj.2

theorem applyAlternatives_shadows (hρ : ρ.Discreet) {as : List Alternative}
    (hi : w.Ahead u i) :
    Shadows t w ((applyAlternatives ⟨ρ,t,true⟩ i as).exec u)
      ((applyAlternatives ⟨ρ,t,false⟩ i as).exec u) := by
  induction as generalizing i u with
  | nil => exact .ok hi
  | cons a rest ih =>
      refine .bind (steps_shadows hρ hi) ?_ ?_
      · intro j v hj
        split
        · exact .ok hj
        · refine .bind (fork_shadows hj) (fun k x hk => ih hk) ?_
          exact fun S x k hS hk => applyAlternatives_steady hS hk.1 hk.2
      · intro S v j hS hj
        split
        · exact .pure hj
        · refine .bind (fork_steady hS hj.2) ?_
          rintro k x hx ⟨hk,hx'⟩
          exact applyAlternatives_steady (hS.mono hx.nodes_le) hk hx'

theorem rules_shadows (hρ : ρ.Discreet) (source : String) (hi : w.Ahead u i) :
    Shadows t w ((rules ⟨ρ,t,true⟩ i source).exec u)
      ((rules ⟨ρ,t,false⟩ i source).exec u) := by
  refine .bind (applyAlternatives_shadows hρ hi) ?_ ?_
  · exact fun j v hj => .ok (hj.of_eq rfl rfl rfl)
  · intro S v j _ hj
    refine .get_bind (.bind .log ?_)
    exact fun _ x hx _ => .pure ⟨hj.1,hj.2.extend hx⟩

theorem seed_ahead {value : Value} {field : Option String} {sensitive : Bool}
    (hs : (seed value field sensitive).exec w = (.ok i,u)) : w.Ahead u i := by
  have hx : ∃ x, (seed value field sensitive).exec w = (.ok w.nodes.size,x) ∧
      x.nodes = w.nodes.push ⟨w.cells.size,w.cells.size,field,sensitive,none,[]⟩ ∧
      x.calls = w.calls := ⟨_,rfl,rfl,rfl⟩
  obtain ⟨x,hx,hn,hq⟩ := hx
  obtain ⟨-,-,hh⟩ := (seedOn_steady (Scope.openFrom_all w.nodes.size)).of_ok hs
  obtain ⟨hi,rfl⟩ := Prod.mk.inj (hs.symm.trans hx)
  cases hi
  refine ⟨hh,?_,Nat.le_refl _,?_,hq⟩
  · rw [hn,Array.size_push]
  · intro j hj
    rw [World.node_push hn]
    split
    · rfl
    · have hd : w.node j = default := by
        simp [World.node,Array.getD_eq_getD_getElem?,hj]
      rw [hd]
      rfl

/-- What the two runs leave, told from outside. -/
theorem Halts.stopsAt {m rule : String} {r : Except Failure Nat × World}
    (h : Halts t w v i m rule r) : w.StopsAt t r.2 v i (v.node i).checks m rule := by
  have hsize := h.goes_on.nodes_le
  rw [World.size_addCheck] at hsize
  have hold : ∀ j < v.nodes.size, j ≠ i → r.2.node j = v.node j := by
    intro j hj hji
    have hout : ¬ (v.scope i).node j := by
      rintro (rfl | hge)
      · exact hji rfl
      · omega
    rw [h.goes_on.node_eq j (by simpa using hj) hout,World.node_addCheck_of_ne hji]
  have hlast := h.last
  have hg := h.goes_on.node_grows i (by simpa using h.lt)
  rw [World.node_addCheck_self h.lt] at hg
  dsimp only at hg
  obtain ⟨after,ha⟩ := hg.checks
  have hearlier : ∀ j < i, v.node j = r.2.node j :=
    fun j hj => (hold j (by omega) (by omega)).symm
  have hfirst : w.FirstFailure r.2 i (v.node i).checks m := by
    refine ⟨h.new,by omega,?_,Node.isClean_iff.mp (h.clean i h.new),after,?_⟩
    · intro j hj hji
      rw [← hearlier j hji]
      exact h.clean j hj
    · rw [← ha,List.append_assoc]
      rfl
  have hown : v.node i = { r.2.node i with checks := (v.node i).checks } := by
    dsimp only
    rw [hg.value,hg.initial,hg.field,hg.sensitive,hg.parent]
  have hlabel : fieldLabel (r.2.node i) = fieldLabel (v.node i) := by
    rw [fieldLabel,fieldLabel,hg.field]
  obtain ⟨c,hcalls,hwording,hrule,hfield⟩ := h.call
  refine ⟨hfirst,h.last,hearlier,hown,?_,c,hcalls,h.goes_on.calls_prefix,?_,hrule,?_⟩
  · intro k hk
    exact (h.goes_on.cell_eq k hk (fun hs => hs)).symm
  · rw [hlabel]
    exact hwording
  · rw [hg.field]
    exact hfield

end Run

/-- Where failures are thrown, nodes have no failed checks. -/
def cleanPolicy {σ : Setting} (hσ : σ.throwEarly = true) : Policy σ where
  node n := n.isClean = true
  call _ := True
  fields _ := True
  passed label h := by
    rw [Node.isClean_iff] at h ⊢
    intro c hc
    rcases List.mem_append.mp hc with hc | hc
    · exact h c hc
    · rw [List.mem_singleton.mp hc]
      rfl
  failed _ h := by
    rw [hσ] at h
    cases h
  moved _ h := h
  forked _ _ := rfl
  asked _ _ _ _ _ := trivial
  refused _ _ := trivial
  brought _ _ := trivial

theorem cleanPolicy_permits {σ : Setting} (hσ : σ.throwEarly = true) {n : Node}
    (hn : n.isClean = true) (op : Operation) : (cleanPolicy hσ).Permits n op := by
  cases op with
  | assoc fields => exact fun _ _ _ _ => rfl
  | clone o changes =>
      intro value initial
      change (Policy.copied n changes value initial).isClean = true
      rw [Node.isClean_iff] at hn ⊢
      unfold Policy.copied
      split
      · exact hn
      · exact List.forall_mem_nil _
  | _ => exact trivial

/-- In a history in which failures are thrown, all nodes stay clean. -/
theorem Later.clean {σ : Setting} (hσ : σ.throwEarly = true) {u : World}
    (hu : Later σ .empty u) : (cleanPolicy hσ).Governs .all 0 u := by
  induction hu with
  | refl => exact .empty _
  | seed o field sensitive _ ih => exact Policy.seedOn_keeps ih fun _ => rfl
  | operate op hu hi ih =>
      have hs := (hu.extends_sound World.sound_empty).2
      have hp := cleanPolicy_permits hσ (ih.node _ hi trivial) op
      exact Policy.operation_keeps ih (Scope.openFrom_all _) trivial (hs _ hi) hp

namespace Run

/-- An expression on a chain of its own. -/
def rulesOn (σ : Setting) (value : Value) (field : Option String) (sensitive : Bool)
    (source : String) : Run Nat := do
  rules σ (← seed value field sensitive) source

/-- An expression on a fresh chain does the same whether failures are thrown or collected
if no check fails. If one does, the run that throws them stops at the first one: it fails
with the message that the other run records there, under the rule and the field of the
check, and has recorded and asked for what the other run had up to then. So where failures
are thrown, no node of any history records one, and all chains are valid. -/
theorem rules_first_failure (t : Translator) (w : World) (value : Value)
    (field : Option String) (sensitive : Bool) (source : String) :
    let collected :=
      (rulesOn ⟨Rules.standard mail,t,false⟩ value field sensitive source).exec w
    let thrown := (rulesOn ⟨Rules.standard mail,t,true⟩ value field sensitive source).exec w
    ((∀ i, w.nodes.size ≤ i → (collected.2.node i).isClean = true) ∧ thrown = collected ∨
      ∃ i before m rule, w.StopsAt t collected.2 thrown.2 i before m rule ∧
        thrown.1 = .error (.failedCheck m rule (collected.2.node i).field)) ∧
    ∀ u, Later ⟨Rules.standard mail,t,true⟩ .empty u → ∀ i < u.nodes.size,
      (u.node i).isClean = true ∧ u.valid i = true := by
  intro collected thrown
  constructor
  · obtain ⟨u,hs⟩ : ∃ u, (seed value field sensitive).exec w = (.ok w.nodes.size,u) :=
      ⟨_,rfl⟩
    have hrun : ∀ b, (rulesOn ⟨Rules.standard mail,t,b⟩ value field sensitive source).exec w =
        (rules ⟨Rules.standard mail,t,b⟩ w.nodes.size source).exec u :=
      fun b => exec_bind_of_ok hs _
    have hsh := rules_shadows (t := t) (Rules.standard_discreet mail) source (seed_ahead hs)
    rw [← hrun,← hrun] at hsh
    change Shadows t w thrown collected at hsh
    generalize thrown = r at hsh ⊢
    generalize collected = s at hsh ⊢
    cases hsh with
    | ok h => exact Or.inl ⟨h.clean,rfl⟩
    | error h => exact Or.inl ⟨h,rfl⟩
    | @halted i v m rule s h =>
        have hstop := h.stopsAt
        refine Or.inr ⟨i,_,m,rule,hstop,?_⟩
        rw [hstop.own]
  · intro u hu i hi
    have hclean := (Later.clean rfl hu).node i hi trivial
    exact ⟨hclean,World.valid_of_isClean hclean⟩

/-- A text that is required, and there, but no integer. That it would pass as a text is
not found out where failures are thrown. -/
theorem rules_first_failure_required :
    let σ : Setting := ⟨Rules.standard .none,.silent,true⟩
    let collected := (rulesOn ⟨Rules.standard .none,.silent,false⟩ (.text "x") (some "age") false
      "req;int|str").exec .empty
    let thrown := (rulesOn σ (.text "x") (some "age") false "req;int|str").exec .empty
    let seeded := ((seed (.text "x") (some "age") false).exec .empty).2
    let u := (((Operation.rules "req;int|str").run σ 0).exec seeded).2
    (collected.2.node 0).isClean = false ∧
      (∃ i before m rule, World.empty.StopsAt .silent collected.2 thrown.2 i before m rule ∧
        thrown.1 = .error (.failedCheck m rule (collected.2.node i).field)) ∧
      Later σ .empty u ∧ (u.node 0).isClean = true := by
  intro σ collected thrown seeded u
  obtain ⟨hrun,hlater⟩ := rules_first_failure .silent .empty (.text "x") (some "age") false
    "req;int|str"
  have hfails : (collected.2.node 0).isClean = false := by decide +kernel
  have hw : Later σ .empty seeded := .seed (.new (.text "x")) (some "age") false .refl
  have hu : Later σ seeded u := .operate (.rules "req;int|str") .refl (by decide)
  have hle := (hu.extends_sound (hw.extends_sound World.sound_empty).2).1.nodes_le
  have hall : Later σ .empty u := .operate (.rules "req;int|str") hw (by decide)
  refine ⟨hfails,?_,hall,(hlater u hall 0 (Nat.lt_of_lt_of_le (by decide) hle)).1⟩
  rcases hrun with ⟨hclean,-⟩ | hstop
  · exact absurd (hclean 0 (Nat.zero_le _)) (Bool.eq_false_iff.mp hfails)
  · exact hstop

end Run

end Vetting
