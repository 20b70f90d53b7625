import Vetting.Proofs.Chain.Steady

/-!
# What steps mean for a chain

As long as failures are collected, a step of an expression depends on very little of the
world: on the value at hand, on what the node is about, and on nothing that other nodes
hold. `Strand` is that little, and `Strand.step` and `Strand.group` say what a step and an
alternative make of it. Runs in a world follow them, result by result and failure by
failure.
-/
namespace Vetting

/-- The state of a chain between two steps. -/
structure Strand where
  value : Value
  /-- Whether a new value has been put in the place of the first one. -/
  moved : Bool
  checks : List Check

/-- What a node is about, for messages. -/
structure Heading where
  field : Option String
  sensitive : Bool

def Node.heading (n : Node) : Heading := ⟨n.field,n.sensitive⟩

namespace World

def strand (w : World) (n : Node) : Strand :=
  ⟨w.cell n.value,n.value != n.initial,n.checks⟩

end World

namespace Heading

/-- The named values that go with a failed check. -/
def context (h : Heading) (v : Value) (rule : String) : Named Value :=
  [("rule", .text rule), ("result", .bool false),
   ("value", if h.sensitive then .null else v),
   ("attribute", optionText h.field), ("sensitive", .bool h.sensitive)]

/-- What stands before a message. -/
def label (h : Heading) : String :=
  match h.field with
  | some s => if s.isEmpty then "" else s ++ ": "
  | none => ""

/-- The check that a verdict becomes. The translator is asked for failures only. -/
def judge (h : Heading) (σ : Setting) (v : Value) (passed : Bool) (message : Value)
    (rule : String) (fields : Named Value) : Except Failure Check :=
  let key := Run.messageKey message rule
  if passed then .ok (.passed key)
  else do
    let translated ← orFail
      (σ.translator.translate key (Named.overlay (h.context v rule) fields))
    match translated, key with
    | some s, _ => .ok (.failed (h.label ++ s))
    | none, .text s => .ok (.failed (h.label ++ s))
    | none, _ => .error (.fault .wrongKind)

end Heading

namespace Strand

/-- A chain on which nothing has been done yet. -/
def start (v : Value) : Strand := ⟨v,false,[]⟩

def errors (b : Strand) : List String := b.checks.filterMap Check.error?

def isClean (b : Strand) : Bool := !b.checks.any fun c => !c.hasPassed

def conclude (σ : Setting) (h : Heading) (b : Strand) : Outcome → Except Failure Strand
  | .verdict passed message rule fields => do
      let c ← h.judge σ b.value passed message rule fields
      .ok { b with checks := b.checks ++ [c] }
  | .replaced v => .ok { b with value := v, moved := true }

/-- The arguments of a step that are passed on. -/
def passedOn (limit : Option Nat) (s : Step) : List Value :=
  let args := s.args.map fun a => Value.text (String.ofList a)
  match limit with
  | none => args
  | some n => args.take n

def step (σ : Setting) (h : Heading) (b : Strand) (s : Step) : Except Failure Strand :=
  if s.isIdle then .ok b
  else
    let name := String.ofList s.name
    match σ.registry.get? name with
    | none => .error (.unknownRule name)
    | some r => do b.conclude σ h (← r.call b.value (passedOn r.arity s) [])

/-- What the steps of an alternative make of a value. -/
def group (σ : Setting) (h : Heading) (v : Value) (a : Alternative) :
    Except Failure Strand :=
  a.foldlM (step σ h) (start v)

end Strand

namespace Run
variable {α β γ δ : Type} {σ : Setting} {w : World} {i : Nat}

/-- A run comes to a result exactly if a computation does, and then to one that goes with
the computation's; if it fails, then with the same failure. -/
def Follows (w : World) (x : Run α) (r : Except Failure β) (Q : β → α → World → Prop) :
    Prop :=
  match r with
  | .error f => (x.exec w).1 = .error f
  | .ok b => ∃ a u, x.exec w = (.ok a,u) ∧ Q b a u

namespace Follows

theorem ok {x : Run α} {b : β} {a : α} {u : World} {Q : β → α → World → Prop}
    (h : x.exec w = (.ok a,u)) (hq : Q b a u) : Follows w x (.ok b) Q :=
  ⟨a,u,h,hq⟩

theorem error {x : Run α} {f : Failure} {u : World} {Q : β → α → World → Prop}
    (h : x.exec w = (.error f,u)) : Follows w x (.error f) Q := by
  change (x.exec w).1 = .error f
  rw [h]

theorem of_exec {x : Run α} {r : Except Failure α} {u : World} (h : x.exec w = (r,u)) :
    Follows w x r fun b a v => a = b ∧ v = u := by
  cases r with
  | error f => exact error h
  | ok a => exact ok h ⟨rfl,rfl⟩

/-- Only what a run comes to counts. -/
theorem congr {x y : Run α} {r : Except Failure β} {u : World} {Q : β → α → World → Prop}
    (h : x.exec w = y.exec u) (hy : Follows u y r Q) : Follows w x r Q := by
  cases r with
  | error f =>
      change (x.exec w).1 = .error f
      rw [h]
      exact hy
  | ok b =>
      obtain ⟨a,v,he,hq⟩ := hy
      exact ok (h.trans he) hq

theorem weaken {x : Run α} {r : Except Failure β} {P Q : β → α → World → Prop}
    (hx : Follows w x r P) (h : ∀ b a u, x.exec w = (.ok a,u) → P b a u → Q b a u) :
    Follows w x r Q := by
  cases r with
  | error f => exact hx
  | ok b =>
      obtain ⟨a,u,he,hp⟩ := hx
      exact ⟨a,u,he,h b a u he hp⟩

theorem bind {x : Run α} {r : Except Failure β} {f : α → Run γ}
    {g : β → Except Failure δ} {P : β → α → World → Prop} {Q : δ → γ → World → Prop}
    (hx : Follows w x r P)
    (hf : ∀ b a u, x.exec w = (.ok a,u) → P b a u → Follows u (f a) (g b) Q) :
    Follows w (x >>= f) (r >>= g) Q := by
  cases r with
  | error e =>
      have he : (x.exec w).1 = .error e := hx
      exact error (exec_bind_of_error (Prod.ext he rfl) f)
  | ok b =>
      obtain ⟨a,u,he,hp⟩ := hx
      exact congr (exec_bind_of_ok he f) (hf b a u he hp)

/-- A run that reads the world, adds a record or the like comes before the one that
follows the computation. -/
theorem of_bind {x : Run α} {f : α → Run γ} {r : Except Failure β}
    {Q : β → γ → World → Prop} {a : α} {u : World} (hx : x.exec w = (.ok a,u))
    (hf : Follows u (f a) r Q) : Follows w (x >>= f) r Q :=
  congr (exec_bind_of_ok hx f) hf

theorem ofExcept {r : Except Failure α} :
    Follows w (Run.ofExcept r) r fun b a u => a = b ∧ u = w :=
  of_exec (exec_ofExcept r w)

end Follows

theorem fail_follows (hσ : σ.throwEarly = false) {rule s : String} {u : World}
    (hn : u.nodes = w.nodes) (hc : u.cells = w.cells)
    (hq : w.calls.toList <+: u.calls.toList) :
    Follows u (check.fail σ i rule (w.node i) s)
      (.ok (.failed ((w.node i).heading.label ++ s)))
      fun c _ u => u.nodes = (w.addCheck i c).nodes ∧ u.cells = w.cells ∧
        w.calls.toList <+: u.calls.toList := by
  have he : check.fail σ i rule (w.node i) s =
      addCheck i (.failed ((w.node i).heading.label ++ s)) := by
    simp only [check.fail,hσ]
    rfl
  rw [he]
  exact .ok (exec_addCheck _ _ u) ⟨by rw [World.addCheck,World.addCheck,hn],hc,hq⟩

/-- Collecting failures, a check asks the translator once if it fails, and not otherwise. -/
theorem check_follows (hσ : σ.throwEarly = false) {passed : Bool} {message : Value}
    {rule : String} {fields : Named Value} :
    Follows w (check σ i passed message rule fields)
      ((w.node i).heading.judge σ (w.value i) passed message rule fields)
      fun c _ u => u.nodes = (w.addCheck i c).nodes ∧ u.cells = w.cells ∧
        w.calls.toList <+: u.calls.toList := by
  unfold check Heading.judge
  cases passed with
  | true => exact .ok (exec_addCheck _ _ w) ⟨rfl,rfl,List.prefix_rfl⟩
  | false =>
      refine .of_bind (exec_get w) (.bind (.of_exec (exec_translate _ _ _ w)) ?_)
      rintro _ translated u - ⟨rfl,rfl⟩
      cases translated with
      | some s => exact fail_follows hσ rfl rfl (by simp)
      | none =>
          generalize messageKey message rule = key
          cases key with
          | text s => exact fail_follows hσ rfl rfl (by simp)
          | _ => exact .error (exec_throw _ _)

end Run

namespace World
variable {w u v : World} {i j k : Nat} {b c : Strand}

/-- A node of a later world that goes on from a node of an earlier one: it is the same
node or a new one, it has the same heading, parent and beginning, and its state is `b`. -/
structure Continues (w u : World) (i j : Nat) (b : Strand) : Prop where
  world : w.Extends (w.scope i) u
  holds : u.Holds j
  scope : (w.scope i).node j
  heading : (u.node j).heading = (w.node i).heading
  parent : (u.node j).parent = (w.node i).parent
  initial : (u.node j).initial = (w.node i).initial
  strand : u.strand (u.node j) = b

theorem scope_mono (hle : w.nodes.size ≤ u.nodes.size) (hj : (w.scope i).node j)
    (hk : (u.scope j).node k) : (w.scope i).node k := by
  rcases hk with rfl | hge
  · exact hj
  · exact Or.inr (hle.trans hge)

namespace Continues

theorem refl (h : w.Holds i) : w.Continues w i i (w.strand (w.node i)) :=
  ⟨.refl _ _,h,w.scope_self i,rfl,rfl,rfl,rfl⟩

theorem trans (h : w.Continues u i j b) (h' : u.Continues v j k c) :
    w.Continues v i k c := by
  have hs : ∀ l, (u.scope j).node l → (w.scope i).node l :=
    fun l => scope_mono h.world.nodes_le h.scope
  exact ⟨h.world.trans (h'.world.mono hs fun _ => id),h'.holds,hs k h'.scope,
    h'.heading.trans h.heading,h'.parent.trans h.parent,h'.initial.trans h.initial,
    h'.strand⟩

theorem of_eq (h : w.Holds i) (hn : u.nodes = w.nodes) (hc : u.cells = w.cells)
    (hq : w.calls.toList <+: u.calls.toList) :
    w.Continues u i i (w.strand (w.node i)) := by
  have he := node_eq_of_nodes_eq hn i
  have hu : w.Extends (w.scope i) u := .of_eq hn hc hq
  refine ⟨hu,h.extend hu,w.scope_self i,?_,?_,?_,?_⟩
  · rw [he]
  · rw [he]
  · rw [he]
  · rw [he,World.strand,cell_eq_of_cells_eq hc]
    rfl

theorem addCheck (h : w.Holds i) {c : Check} (hn : u.nodes = (w.addCheck i c).nodes)
    (hc : u.cells = w.cells) (hq : w.calls.toList <+: u.calls.toList) :
    w.Continues u i i { w.strand (w.node i) with checks := (w.node i).checks ++ [c] } := by
  have hu : w.Extends (w.scope i) u :=
    (Extends.addCheck (w.scope_self i) c).trans (.of_eq hn hc hq)
  have he : u.node i = { w.node i with checks := (w.node i).checks ++ [c] } :=
    (node_eq_of_nodes_eq hn i).trans (node_addCheck_self h.lt c)
  refine ⟨hu,h.extend hu,w.scope_self i,?_,?_,?_,?_⟩
  · rw [he]
    rfl
  · rw [he]
  · rw [he]
  · rw [he,World.strand,cell_eq_of_cells_eq hc]
    rfl

end Continues

end World

namespace Run
variable {σ : Setting} {w : World} {i : Nat}

theorem exec_derive (w : World) (i : Nat) (v : Value) :
    ∃ u, (derive i v).exec w = (.ok w.nodes.size,u) ∧ u.cells = w.cells.push v ∧
      u.nodes = w.nodes.push { w.node i with value := w.cells.size } :=
  ⟨_,rfl,rfl,rfl⟩

/-- A new value lies in a cell of its own, so it is not where the chain started. -/
theorem derive_continues (h : w.Holds i) (v : Value) :
    Follows w (derive i v)
      (.ok { w.strand (w.node i) with value := v, moved := true })
      fun b j u => w.Continues u i j b := by
  obtain ⟨u,hx,hc,hn⟩ := exec_derive w i v
  obtain ⟨hw,-,hh⟩ := (derive_steady (w.openFrom_scope i) h).of_ok hx
  have he : u.node w.nodes.size = { w.node i with value := w.cells.size } := by
    rw [World.node_push hn,if_pos rfl]
  have hne : (w.cells.size != (w.node i).initial) = true := by
    simpa using (Nat.ne_of_lt h.initial_lt).symm
  refine .ok hx ⟨hw,hh,Or.inr (Nat.le_refl _),?_,?_,?_,?_⟩
  · rw [he]
    rfl
  · rw [he]
  · rw [he]
  · rw [he,World.strand,World.cell_push hc,if_pos rfl,hne]
    rfl

theorem conclude_follows (hσ : σ.throwEarly = false) (h : w.Holds i) (o : Outcome) :
    Follows w (conclude σ i o) ((w.strand (w.node i)).conclude σ (w.node i).heading o)
      fun b j u => w.Continues u i j b := by
  cases o with
  | verdict passed message rule fields =>
      refine .bind (check_follows hσ) ?_
      rintro c _ u - ⟨hn,hc,hq⟩
      exact .ok (exec_pure i u) (.addCheck h hn hc hq)
  | replaced v => exact derive_continues h v

theorem apply_follows (hσ : σ.throwEarly = false) (h : w.Holds i) (name : String)
    (args : List Value) :
    Follows w (apply σ i name args [])
      (match σ.registry.get? name with
        | none => .error (.unknownRule name)
        | some r => do
            (w.strand (w.node i)).conclude σ (w.node i).heading
              (← r.call (w.strand (w.node i)).value args []))
      fun b j u => w.Continues u i j b := by
  unfold apply applyUnder
  rw [if_neg (by simp)]
  cases σ.registry.get? name with
  | none => exact .error (exec_throw _ w)
  | some r =>
      refine .of_bind (exec_get w) (.bind .ofExcept ?_)
      rintro o _ u - ⟨rfl,rfl⟩
      exact conclude_follows hσ h _

theorem exec_stepArguments (σ : Setting) (w : World) (name : String) (s : Step) :
    ∃ u, (stepArguments σ name (s.args.map fun a => .text (String.ofList a))).exec w =
        (.ok (Strand.passedOn (σ.registry.maxArguments name) s),u) ∧
      u.nodes = w.nodes ∧ u.cells = w.cells ∧ u.calls = w.calls := by
  unfold stepArguments Strand.passedOn
  cases σ.registry.maxArguments name with
  | none => exact ⟨w,rfl,rfl,rfl,rfl⟩
  | some n =>
      dsimp only
      split
      · exact ⟨_,exec_bind_of_ok (exec_log _ _ w) _,rfl,rfl,rfl⟩
      · rename_i hle
        rw [List.take_of_length_le (Nat.le_of_not_lt hle)]
        exact ⟨w,rfl,rfl,rfl,rfl⟩

theorem applyStep_follows (hσ : σ.throwEarly = false) (h : w.Holds i) (s : Step) :
    Follows w (applyStep σ i s) ((w.strand (w.node i)).step σ (w.node i).heading s)
      fun b j u => w.Continues u i j b := by
  unfold applyStep Strand.step
  split
  · exact .ok (exec_pure i w) (.refl h)
  · obtain ⟨u,he,hn,hc,hq⟩ := exec_stepArguments σ w (String.ofList s.name) s
    have hu : w.Continues u i i (w.strand (w.node i)) := .of_eq h hn hc (by simp [hq])
    have ha := apply_follows hσ hu.holds (String.ofList s.name)
      (Strand.passedOn (σ.registry.maxArguments (String.ofList s.name)) s)
    rw [hu.strand,hu.heading] at ha
    refine .of_bind he (.weaken (P := fun b j v => u.Continues v i j b) ?_ ?_)
    · dsimp only
      cases hr : σ.registry.get? (String.ofList s.name) with
      | none =>
          rw [hr] at ha
          exact ha
      | some r =>
          rw [Registry.maxArguments_eq,hr] at ha ⊢
          exact ha
    · intro b j v _ hv
      exact hu.trans hv

/-- An alternative on a node does what its steps make of the node's state. -/
theorem steps_follows (hσ : σ.throwEarly = false) (h : w.Holds i) (a : Alternative) :
    Follows w (a.foldlM (applyStep σ) i)
      (a.foldlM (Strand.step σ (w.node i).heading) (w.strand (w.node i)))
      fun b j u => w.Continues u i j b := by
  induction a generalizing i w with
  | nil => exact .ok (exec_pure i w) (.refl h)
  | cons s rest ih =>
      rw [List.foldlM_cons,List.foldlM_cons]
      refine .bind (applyStep_follows hσ h s) ?_
      intro b j u _ hj
      have hr := ih hj.holds
      rw [hj.strand,hj.heading] at hr
      refine .weaken hr ?_
      intro c k v _ hk
      exact hj.trans hk

end Run

end Vetting
