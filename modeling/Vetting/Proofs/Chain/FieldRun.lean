import Vetting.Proofs.Chain.Meaning

/-!
# The rules for one field

What the rules for a field come to is read off the value at its path: each alternative of
each expression is run by itself on that value, and the strands that come out are settled
in the order in which a chain falls back on them. The chain that is built for the field
has these strands, and over them what the node of the container can fall back on itself.
-/
namespace Vetting

namespace Field

/-- What expressions come to that are alternatives to each other. No expression passes. -/
def allOutcomes (σ : Setting) (v : Value) (path : String) (sensitive : Bool) :
    List String → Except Failure (List Strand)
  | [] => .ok [.start v]
  | [e] => Run.outcomes σ v (some path) sensitive e
  | e :: es => do
      let rs ← Run.outcomes σ v (some path) sensitive e
      let ts ← allOutcomes σ v path sensitive es
      .ok (rs ++ ts)

/-- The value at the path of a field, and what the rules for the field come to on it. -/
def evaluate (σ : Setting) (data : Value) (field : String) (fieldRules : Value) :
    Except Failure (Value × List Strand) := do
  let current ← orFail (Path.read (splitField field).1 data .null)
  let es ← orFail (expressionsOf fieldRules)
  let rs ← allOutcomes σ current (splitField field).1 (splitField field).2 es
  .ok (current,rs)

/-- The failure of a field with errors, unless there is no message for it. -/
def refuse (σ : Setting) (path : String) (errors : List String) : Except Failure Unit := do
  let translated ← orFail (σ.translator.translate (.text invalidKey)
    [("attribute", .text path), ("errors", .list (errors.map .text))])
  let message := match translated with
    | some s => if s.isEmpty then invalidMessage else s
    | none => invalidMessage
  .error (.invalid message path errors)

/-- The data after a field, and how the field ends. The first clean strand counts, and
its value is written back if it differs from the current one or is of another kind. -/
def settle (σ : Setting) (data : Value) (path : String) (current : Value)
    (bs : List Strand) : Value × Except Failure Unit :=
  match bs.find? Strand.isClean with
  | none => (data,refuse σ path (bs.flatMap Strand.errors))
  | some b =>
      match b.value.differs (!b.moved) current with
      | .error f => (data,.error (.fault f))
      | .ok differs =>
          if differs || b.value.kind != current.kind then Path.write path data b.value
          else (data,.ok ())

/-- The data after a field whose chain can fall back on further strands. -/
def run (σ : Setting) (fallback : List Strand) (data : Value) (field : String)
    (fieldRules : Value) : Value × Except Failure Unit :=
  match evaluate σ data field fieldRules with
  | .error f => (data,.error f)
  | .ok (current,rs) => settle σ data (splitField field).1 current (rs.reverse ++ fallback)

/-- A refused field fails, if need be for want of a message. -/
theorem refuse_eq_error (σ : Setting) (path : String) (errors : List String) :
    ∃ f, refuse σ path errors = .error f := by
  unfold refuse
  cases orFail (σ.translator.translate (.text invalidKey)
    [("attribute",.text path),("errors",.list (errors.map .text))]) with
  | error f => exact ⟨f,rfl⟩
  | ok translated => exact ⟨_,rfl⟩

section
variable {σ : Setting} {fallback : List Strand} {data current fieldRules : Value}
  {field path : String} {sensitive : Bool} {f : Fault} {es : List String}

theorem run_of_unread (hs : splitField field = (path,sensitive))
    (hr : Path.read path data .null = .error f) :
    run σ fallback data field fieldRules = (data,.error (.fault f)) := by
  rw [run,evaluate,hs,hr]
  rfl

theorem run_of_unwritten (hs : splitField field = (path,sensitive))
    (hr : Path.read path data .null = .ok current) (he : expressionsOf fieldRules = .error f) :
    run σ fallback data field fieldRules = (data,.error (.fault f)) := by
  rw [run,evaluate,hs,hr,he]
  rfl

theorem run_of_ok (hs : splitField field = (path,sensitive))
    (hr : Path.read path data .null = .ok current) (he : expressionsOf fieldRules = .ok es) :
    run σ fallback data field fieldRules =
      match allOutcomes σ current path sensitive es with
      | .error f => (data,.error f)
      | .ok rs => settle σ data path current (rs.reverse ++ fallback) := by
  rw [run,evaluate,hs,hr,he]
  simp only [orFail,bind,Except.bind]
  cases allOutcomes σ current path sensitive es <;> rfl

end

end Field

namespace World
variable {w u v : World} {i j k l : Nat} {rs : List Strand}

/-- The state of a node that counts as moved unless its value lies in a certain cell. -/
def strandFrom (w : World) (c : Nat) (n : Node) : Strand :=
  ⟨w.cell n.value,n.value != c,n.checks⟩

theorem strandFrom_initial (w : World) (n : Node) : w.strandFrom n.initial n = w.strand n := rfl

/-- A strand of a node outside a chain, which never is where that chain began. -/
def foreign (w : World) (n : Node) : Strand := { w.strand n with moved := true }

theorem Fresh.value_eq {h : Heading} {y : Value} (hi : w.Fresh i h y) :
    (w.node i).value = (w.node i).initial := by
  have hm := congrArg Strand.moved hi.strand
  exact eq_of_beq (Bool.not_eq_false' .. ▸ hm)

/-- Over its own strands, a chain has those of the nodes that it began over, all of whose
values lie in other cells. -/
theorem Stacks.strandsFrom {ns : List Node} {h : Heading} {y : Value}
    (hj : u.Stacks v i j rs) (hi : u.Fresh i h y) (hn : u.ancestors i = ns)
    (ha : ∀ n ∈ ns, n.value < (u.node i).initial) :
    (v.lineage j).map (v.strandFrom (v.node i).value) = rs.reverse ++ ns.map u.foreign := by
  have hv : (v.node i).value = (u.node i).initial :=
    (hj.world.node_grows i hi.holds.lt).value.trans hi.value_eq
  obtain ⟨ms,hms,hrs,hin⟩ := hj.lineage
  rw [hms,hn,List.map_append,hv,← hrs]
  congr 1
  · refine List.map_congr_left fun n hn => ?_
    rw [← (hin n hn).2,strandFrom_initial]
  · refine List.map_congr_left fun n hn => ?_
    have hlt := ha n hn
    have hne : (n.value != (u.node i).initial) = true := by
      simpa using Nat.ne_of_lt hlt
    rw [strandFrom,hne,hj.world.cell_eq _ (hlt.trans hi.holds.initial_lt) id]
    rfl

end World

namespace Run
variable {α β : Type} {σ : Setting} {w u : World} {i j k c : Nat} {v : Value}

/-- The last part of the rules for a field: the chain is validated, and its value is
written back. -/
def settle (σ : Setting) (c : Nat) (path : String) (start : Nat) (current : Value) (j : Nat) :
    Run Unit := do
  discard (validate σ j)
  let w ← get
  let result := w.result? j
  let changed := w.get j
  let differs ← ofFault (changed.differs (result == some (w.node start).value) current)
  if differs || changed.kind != current.kind then
    log .debug ("Writing back transformed value for '" ++ path ++ "'")
    writeBack c path changed

theorem applyExpressions_follows (hσ : σ.throwEarly = false) {path : String}
    {sensitive : Bool} (hi : w.Fresh i ⟨some path,sensitive⟩ v) (es : List String) :
    Follows w (applyExpressions σ i es) (Field.allOutcomes σ v path sensitive es)
      fun rs j u => w.Stacks u i j rs := by
  induction es generalizing i w with
  | nil =>
      refine .ok (exec_pure i w) ?_
      rw [← hi.strand]
      exact (World.Continues.refl hi.holds).stacks hi.holds
  | cons e rest ih =>
      have he := rules_follows hσ hi e
      rw [← outcomes_eq_strands hσ] at he
      rw [applyExpressions]
      cases rest with
      | nil =>
          rw [← bind_pure (Field.allOutcomes σ v path sensitive [e])]
          refine .bind he ?_
          intro rs j u _ hj
          exact .ok (exec_pure j u) hj
      | cons f more =>
          refine .bind he ?_
          intro rs j u _ hj
          obtain ⟨k,v,hx,hk⟩ := fork_forks hj.holds
          refine .of_bind hx (.map (ih (hi.after_fork hj hk)) ?_)
          intro ts l y hl
          exact hj.append hk hl

/-- A run comes to a result or fails, and leaves a value in a cell. -/
def Leaves (w : World) (x : Run α) (c : Nat) (r : Value × Except Failure α) : Prop :=
  (x.exec w).1 = r.2 ∧ (x.exec w).2.cell c = r.1

namespace Leaves

theorem of_exec {x : Run α} {r : Except Failure α} (h : x.exec w = (r,u))
    (hc : u.cell c = v) : Leaves w x c (v,r) := by
  rw [Leaves,h]
  exact ⟨rfl,hc⟩

theorem of_bind {x : Run α} {f : α → Run β} {a : α} {r : Value × Except Failure β}
    (hx : x.exec w = (.ok a,u)) (hf : Leaves u (f a) c r) : Leaves w (x >>= f) c r := by
  rw [Leaves,exec_bind_of_ok hx]
  exact hf

theorem bind_error {x : Run α} {f : α → Run β} {e : Failure}
    (hx : x.exec w = (.error e,u)) (hc : u.cell c = v) :
    Leaves w (x >>= f) c (v,.error e) :=
  of_exec (exec_bind_of_error hx f) hc

end Leaves

theorem exec_writeBack {path : String} :
    (writeBack c path v).exec w =
      ((Path.write path (w.cell c) v).2,
        { w with cells := w.cells.setIfInBounds c (Path.write path (w.cell c) v).1 }) := by
  unfold writeBack
  rw [exec_bind_of_ok (exec_get w)]
  dsimp only
  rw [exec_bind_of_ok (exec_modify _ w),exec_ofExcept]

/-- An invalid chain is refused with its errors. -/
theorem validate_leaves {path : String} (hv : w.valid j = false)
    (hf : (w.node j).field = some path) :
    Leaves w (discard (validate σ j)) c (w.cell c,Field.refuse σ path (w.errors j)) := by
  rw [Leaves,exec_discard]
  unfold validate Field.refuse
  rw [exec_bind_of_ok (exec_get w)]
  dsimp only
  rw [if_neg (by rw [hv]; exact Bool.false_ne_true),hf,Option.getD_some,exec_bind,
    exec_translate]
  cases orFail (σ.translator.translate (.text invalidKey)
    [("attribute",.text path),("errors",.list ((w.errors j).map .text))]) with
  | error f => exact ⟨rfl,rfl⟩
  | ok translated => exact ⟨rfl,rfl⟩

/-- A value is written back if it differs from the current one. -/
theorem write_leaves {path : String} {x : Value} {same : Bool} (hc : c < w.cells.size) :
    Leaves w (do
        let differs ← ofFault (x.differs same v)
        if differs || x.kind != v.kind then
          log .debug ("Writing back transformed value for '" ++ path ++ "'")
          writeBack c path x)
      c (match x.differs same v with
        | .error f => (w.cell c,.error (.fault f))
        | .ok differs =>
            if differs || x.kind != v.kind then Path.write path (w.cell c) x
            else (w.cell c,.ok ())) := by
  cases x.differs same v with
  | error f => exact .bind_error (exec_ofFault_error rfl) rfl
  | ok differs =>
      refine .of_bind (exec_ofFault_ok rfl) ?_
      dsimp only
      cases differs || x.kind != v.kind with
      | false => exact .of_exec (exec_pure () w) rfl
      | true =>
          exact .of_bind (exec_log _ _ w) (.of_exec exec_writeBack (World.cell_set rfl hc))

/-- Validation and writing back settle the strands of a chain. -/
theorem settle_leaves {path : String} {start : Nat} {bs : List Strand}
    (hf : (w.node j).field = some path)
    (hbs : (w.lineage j).map (w.strandFrom (w.node start).value) = bs)
    (hc : c < w.cells.size) :
    Leaves w (settle σ c path start v j) c (Field.settle σ (w.cell c) path v bs) := by
  have hfind : bs.find? Strand.isClean = ((w.lineage j).find? Node.isClean).map
      (w.strandFrom (w.node start).value) := by
    rw [← hbs,List.find?_map]
    rfl
  have hvalid : w.valid j = ((w.lineage j).find? Node.isClean).isSome :=
    List.isSome_find?.symm
  unfold settle Field.settle
  rw [hfind]
  cases hn : (w.lineage j).find? Node.isClean with
  | none =>
      have hv : w.valid j = false := by rw [hvalid,hn]; rfl
      have he : w.errors j = bs.flatMap Strand.errors := by
        rw [← hbs,List.flatMap_map,World.errors,hv]
        rfl
      obtain ⟨f,hr⟩ := Field.refuse_eq_error σ path (w.errors j)
      have hl := validate_leaves (σ := σ) (c := c) hv hf
      rw [Option.map_none,← he,hr]
      exact .bind_error (Prod.ext (hl.1.trans hr) rfl) hl.2
  | some n =>
      have hv : w.valid j = true := by rw [hvalid,hn]; rfl
      have hval : (discard (validate σ j)).exec w = (.ok (),w) := by
        rw [exec_discard,exec_validate_of_valid hv]
        rfl
      have hres : w.result? j = some n.value := by rw [World.result?,hn]; rfl
      have hget : w.get j = w.cell n.value := by rw [World.get,hres]; rfl
      have hsame : (w.result? j == some (w.node start).value) =
          !(w.strandFrom (w.node start).value n).moved := by
        rw [hres,World.strandFrom,bne,Bool.not_not]
        rfl
      refine .of_bind hval (.of_bind (exec_get w) ?_)
      dsimp only [Option.map_some]
      rw [hsame,hget]
      exact write_leaves hc

theorem exec_fieldNode (w : World) (k : Nat) (path : String) (sensitive : Bool) (v : Value) :
    ∃ u, (fieldNode k path sensitive v).exec w = (.ok w.nodes.size,u) ∧
      u.cells = w.cells.push v ∧ u.nodes = w.nodes.push
        ⟨w.cells.size,w.cells.size,some path,sensitive,(w.node k).parent,[]⟩ :=
  ⟨_,rfl,rfl,rfl⟩

/-- The chain of a field begins with the value at its path, over what the node of the
container can fall back on. -/
theorem fieldNode_fresh (h : w.Holds k) (path : String) (sensitive : Bool) (v : Value) :
    ∃ u, (fieldNode k path sensitive v).exec w = (.ok w.nodes.size,u) ∧
      w.Extends (w.scope w.nodes.size) u ∧ u.Fresh w.nodes.size ⟨some path,sensitive⟩ v ∧
      (u.node w.nodes.size).initial = w.cells.size ∧
      u.ancestors w.nodes.size = w.ancestors k := by
  obtain ⟨u,hx,hc,hn⟩ := exec_fieldNode w k path sensitive v
  obtain ⟨hw,-,hh⟩ := (fieldNode_steady (w.openFrom_scope w.nodes.size) h).of_ok hx
  have he := World.node_push hn w.nodes.size
  rw [if_pos rfl] at he
  refine ⟨u,hx,hw,.of_push hh hn hc rfl rfl rfl,by rw [he],?_⟩
  cases hp : (w.node k).parent with
  | none => rw [World.ancestors_of_root hp,World.ancestors_of_root (by rw [he,hp])]
  | some p =>
      have hlt := h.parent_lt p hp
      have hpu : (u.node w.nodes.size).parent = some p := by rw [he,hp]
      rw [World.ancestors_of_parent hp hlt,
        World.ancestors_of_parent hpu (hlt.trans h.lt)]
      apply World.lineage_congr
      intro l hl
      rw [World.node_push hn,if_neg (Nat.ne_of_lt ((hl.trans_lt hlt).trans h.lt))]

/-- Expressions on the chain of a field leave its strands to be settled over those that
the chain began over; if one of them fails, the data stay as they are. -/
theorem expressions_leave (hσ : σ.throwEarly = false) {path : String} {sensitive : Bool}
    {ns : List Node} (hi : w.Fresh i ⟨some path,sensitive⟩ v) (hn : w.ancestors i = ns)
    (ha : ∀ n ∈ ns, n.value < (w.node i).initial) (hc : c < w.cells.size)
    (es : List String) :
    Leaves w (do settle σ c path i v (← applyExpressions σ i es)) c
      (match Field.allOutcomes σ v path sensitive es with
        | .error f => (w.cell c,.error f)
        | .ok rs => Field.settle σ (w.cell c) path v (rs.reverse ++ ns.map w.foreign)) := by
  have hf := applyExpressions_follows hσ hi es
  cases ho : Field.allOutcomes σ v path sensitive es with
  | error f =>
      have hs : Steady (w.scope i) w (applyExpressions σ i es) (Reaches (w.scope i)) :=
        applyExpressions_steady (w.openFrom_scope i) (w.scope_self i) hi.holds
      rw [ho] at hf
      exact .bind_error (Prod.ext hf rfl) (hs.world.cell_eq c hc id)
  | ok rs =>
      rw [ho] at hf
      obtain ⟨j,u,hx,hj⟩ := hf
      have hp : (u.node j).field = some path :=
        congrArg Heading.field (hj.heading.trans hi.heading)
      have hl := settle_leaves (σ := σ) (v := v) hp (hj.strandsFrom hi hn ha)
        (hc.trans_le hj.world.cells_le)
      rw [hj.world.cell_eq c hc id] at hl
      exact .of_bind hx hl

/-- The rules for a field come to what its strands are settled to, over those of the
ancestors of the container's node. -/
theorem applyField_leaves (hσ : σ.throwEarly = false) (h : w.Holds k) (field : String)
    (fieldRules : Value) (ha : ∀ n ∈ w.ancestors k, n.value < w.cells.size) :
    Leaves w (applyField σ k field fieldRules) (w.node k).value
      (Field.run σ ((w.ancestors k).map w.foreign) (w.value k) field fieldRules) := by
  cases hsf : splitField field with
  | mk path sensitive =>
  unfold applyField
  rw [hsf]
  refine .of_bind (exec_nodeAt k w) (.of_bind (exec_get w) ?_)
  cases hr : Path.read path (w.value k) .null with
  | error f =>
      rw [Field.run_of_unread hsf hr]
      exact .bind_error (exec_ofFault_error hr) rfl
  | ok current =>
      refine .of_bind (exec_ofFault_ok hr) ?_
      obtain ⟨u,hx,hu,hfresh,hin,hanc⟩ := fieldNode_fresh h path sensitive current
      have hcu : u.cell (w.node k).value = w.value k := hu.cell_eq _ h.value_lt id
      refine .of_bind hx ?_
      cases hes : expressionsOf fieldRules with
      | error f =>
          rw [Field.run_of_unwritten hsf hr hes]
          exact .bind_error (exec_ofFault_error rfl) hcu
      | ok es =>
          refine .of_bind (exec_ofFault_ok rfl) ?_
          have hl := expressions_leave hσ hfresh hanc (by rw [hin]; exact ha)
            (h.value_lt.trans_le hu.cells_le) es
          have hfor : (w.ancestors k).map u.foreign = (w.ancestors k).map w.foreign :=
            List.map_congr_left fun n hn => by
              rw [World.foreign,World.foreign,World.strand_extend hu (fun _ => id) (ha n hn)]
          rw [hcu,hfor] at hl
          rw [Field.run_of_ok hsf hr hes]
          exact hl

end Run

end Vetting
