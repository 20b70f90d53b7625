import Vetting.Proofs.Chain.Anchor
import Vetting.Proofs.Chain.Composition
import Vetting.Proofs.Chain.Reference
import Vetting.Proofs.Place.Search
import Vetting.Proofs.Value.Difference

/-!
# Rules for fields that only judge

Where the rules for a field only judge, its chain comes back with the value that was read, so
that it depends on comparing this value with itself whether it is written back. A NaN is, and
then it is written to wherever a write at the path goes, which need not be where it was read.
Otherwise the container is left alone, and the rules do what they would do if nothing were
ever compared or written back.
-/
namespace Vetting
variable {mail : Rules.MailReader}

/-- Every NaN that a path leads to can be compared, and writing it at the path leaves all as
it is. -/
def Value.RestoresNaNs (v : Value) : Prop :=
  ∀ path x, Path.Resolves path v x → x.isNaN = true →
    x.isSignal = false ∧ Path.write path v x = (v,.ok ())

namespace World
variable {S : Scope} {w u : World} {i c : Nat} {es : List (Value × Value)}

/-- A node without alternatives to fall back on that holds a dictionary. -/
structure HoldsDict (w : World) (i : Nat) (es : List (Value × Value)) : Prop where
  sound : w.Sound
  lt : i < w.nodes.size
  root : (w.node i).parent = none
  value : w.value i = .dict es

namespace HoldsDict

theorem alike (h : w.HoldsDict i es) (hu : w.Alike u) : u.HoldsDict i es := by
  obtain ⟨rs,rfl⟩ := hu
  refine ⟨?_,h.lt,h.root,h.value⟩
  intro j hj
  obtain ⟨hlt,hp,hv,hi⟩ := h.sound j hj
  exact ⟨hlt,hp,hv,hi⟩

theorem extend (h : w.HoldsDict i es) (hu : w.Extends S u)
    (hS : ¬ S.cell (w.node i).value) : u.HoldsDict i es := by
  have hg := hu.node_grows i h.lt
  refine ⟨h.sound.extend hu,h.lt.trans_le hu.nodes_le,hg.parent.trans h.root,?_⟩
  rw [World.value,hg.value,hu.cell_eq _ (h.sound i h.lt).value_lt hS]
  exact h.value

end HoldsDict

end World

namespace Run
variable {σ : Setting} {S : Scope} {w u : World} {i j : Nat} {es : List (Value × Value)}
  {field : String} {fieldRules : Value}

/-- The rules for a field without their last part: the value at the path is judged, and comes
back as it is. -/
def judgeField (σ : Setting) (i : Nat) (field : String) (fieldRules : Value) : Run Value := do
  let container := (← nodeAt i).value
  let (path, sensitive) := splitField field
  let current ← ofFault (Path.read path ((← get).cell container) .null)
  let start ← fieldNode i path sensitive current
  let j ← applyExpressions σ start (← ofFault (expressionsOf fieldRules))
  discard (validate σ j)
  return current

def judgeFields (σ : Setting) (i : Nat) (fields : Named Value) : Run Nat := do
  match (← get).value i with
  | .dict _ =>
      fields.forM fun f => discard (judgeField σ i f.1 f.2)
      return i
  | v => throw (.notAContainer v.kind)

/-- What is done with a value that comes back as it is. -/
def putBack (cell : Nat) (path : String) (v : Value) : Run Unit := do
  let differs ← ofFault (v.differs true v)
  if differs then
    log .debug ("Writing back transformed value for '" ++ path ++ "'")
    writeBack cell path v

/-- A chain for a field that is anchored in the cell of its value, after expressions that only
judge. -/
theorem fieldNode_anchored (h : w.HoldsDict i es) (path : String) (sensitive : Bool) (v : Value) :
    Steady (w.scope w.nodes.size) w (fieldNode i path sensitive v) fun j u =>
      j = w.nodes.size ∧ u.Anchored w.cells.size j ∧ (u.node j).value = w.cells.size ∧
        u.cell w.cells.size = v := by
  obtain ⟨u,hx,hc,hn⟩ := exec_fieldNode w i path sensitive v
  obtain ⟨hw,hreach⟩ := (fieldNode_steady (w.openFrom_scope w.nodes.size) (h.sound i h.lt)).of_ok hx
  have he : u.node w.nodes.size =
      ⟨w.cells.size,w.cells.size,some path,sensitive,(w.node i).parent,[]⟩ := by
    rw [World.node_push hn,if_pos rfl]
  have hlineage : u.lineage w.nodes.size = [u.node w.nodes.size] :=
    World.lineage_of_root (by rw [he]; exact h.root)
  refine .of_exec hx hw ?_
  rintro _ ⟨⟩
  refine ⟨rfl,⟨h.sound.extend hw,hreach.2.lt,?_⟩,by rw [he],?_⟩
  · rw [hlineage,he]
    simp
  · rw [World.cell_push hc,if_pos rfl]

/-- Rules that only judge come back with the value that was read, and then put it back. -/
theorem exec_applyField (hσ : σ.registry = Rules.standard mail) (h : w.HoldsDict i es)
    (hj : FieldOnlyJudges mail fieldRules) (field : String) :
    (applyField σ i field fieldRules).exec w =
      (judgeField σ i field fieldRules >>=
        putBack (w.node i).value (splitField field).1).exec w := by
  cases hsf : splitField field with
  | mk path sensitive =>
  unfold applyField judgeField
  rw [hsf]
  simp only [bind_assoc,pure_bind]
  rw [exec_bind_of_ok (exec_nodeAt i w),exec_bind_of_ok (exec_nodeAt i w),
    exec_bind_of_ok (exec_get w),exec_bind_of_ok (exec_get w)]
  refine exec_bind_congr fun current v hv => ?_
  obtain ⟨-,rfl⟩ := of_exec_ofFault hv
  refine exec_bind_congr fun start u hu => ?_
  obtain ⟨-,rfl,hstart,hvalue,hcell⟩ := (fieldNode_anchored h path sensitive current).of_ok hu
  refine exec_bind_congr fun fs x hx => ?_
  obtain ⟨hfs,rfl⟩ := of_exec_ofFault hx
  refine exec_bind_congr fun j y hy => ?_
  obtain ⟨hext,-,hanchored⟩ := (applyExpressions_anchored hσ (hj fs hfs)
    (u.openFrom_scope w.nodes.size) (u.scope_self _) hstart).of_ok hy
  refine exec_bind_congr fun _ z hz => ?_
  obtain ⟨k,v,hk,hv⟩ := exists_of_exec_bind (f := fun _ => pure ()) hz
  obtain ⟨hvalid,rfl⟩ := validate_of_ok hk
  cases hv
  -- What comes out lies in the cell of the value that was read, which has not been written to.
  have hlt : w.cells.size < u.cells.size := hvalue ▸ (hstart.sound _ hstart.lt).value_lt
  have hresult : z.result? j = some w.cells.size := hanchored.result?_eq hvalid
  have hget : z.get j = current :=
    (hanchored.get_eq hvalid).trans ((hext.cell_eq _ hlt id).trans hcell)
  have hfirst : (z.node w.nodes.size).value = w.cells.size :=
    (hext.node_grows _ hstart.lt).value.trans hvalue
  rw [exec_bind_of_ok (exec_get z),putBack]
  simp only [hresult,hget,hfirst,beq_self_eq_true,bne_self_eq_false,Bool.or_false]

/-! ## Putting back -/

theorem exec_putBack_of_isNaN_eq_false {c : Nat} {path : String} {v : Value}
    (h : v.isNaN = false) : (putBack c path v).exec w = (.ok (),w) := by
  have hs : v.isSignal = false := by
    cases hs : v.isSignal with
    | true => exact absurd (Value.isNaN_of_isSignal hs) (by simp [h])
    | false => rfl
  have hd : v.differs true v = .ok false := by
    rw [Value.differs_self,hs,h]
    rfl
  rw [putBack,exec_bind_of_ok (exec_ofFault_ok hd)]
  rfl

theorem exec_putBack_of_isSignal {c : Nat} {path : String} {v : Value}
    (h : v.isSignal = true) :
    (putBack c path v).exec w = (.error (.fault .noResult),w) := by
  have hd : v.differs true v = .error .noResult := by
    rw [Value.differs_self,h]
    rfl
  exact exec_bind_of_error (exec_ofFault_error hd) _

/-- A NaN that can be compared is written. -/
theorem exec_putBack_of_isNaN {v : Value} (h : v.isNaN = true) (hs : v.isSignal = false)
    (w : World) (c : Nat) (path : String) :
    ∃ rs, (putBack c path v).exec w = ((Path.write path (w.cell c) v).2,
      { w with
        cells := w.cells.setIfInBounds c (Path.write path (w.cell c) v).1
        records := rs }) := by
  have hd : v.differs true v = .ok true := by
    rw [Value.differs_self,hs,h]
    rfl
  rw [putBack,exec_bind_of_ok (exec_ofFault_ok hd)]
  rw [if_pos rfl,exec_bind_of_ok (exec_log _ _ w),exec_writeBack]
  exact ⟨_,rfl⟩

/-! ## Judging -/

theorem judgeField_blind (σ : Setting) (i : Nat) (field : String) (fieldRules : Value) :
    Blind (judgeField σ i field fieldRules) := by
  refine .nodeAt_bind fun n => ?_
  split
  refine .get_bind (fun w => ?_) ?_
  · refine .bind (.ofFault _) fun current => .bind (fieldNode_blind i _ _ current) fun start => ?_
    refine .bind (.ofFault _) fun es => .bind (applyExpressions_blind σ start es) fun j => ?_
    exact .bind (.bind (validate_blind σ j) fun _ => .pure ()) fun _ => .pure current
  · rintro w _ ⟨rs,rfl⟩
    rfl

theorem judgeField_steady (hS : S.OpenFrom w.nodes.size) (h : w.Holds i) (field : String)
    (fieldRules : Value) :
    Steady S w (judgeField σ i field fieldRules) fun current _ =>
      Path.read (splitField field).1 (w.value i) .null = .ok current := by
  refine .nodeAt_bind ?_
  cases hsf : splitField field with
  | mk path sensitive =>
  refine .get_bind ?_
  change Steady S w (ofFault (Path.read path (w.value i) .null) >>= _) _
  cases hr : Path.read path (w.value i) .null with
  | error f =>
      refine .of_exec (exec_bind_of_error (exec_ofFault_error rfl) _) (.refl S w) ?_
      rintro _ ⟨⟩
  | ok current =>
      refine .bind (P := fun v u => v = current ∧ u = w)
        (.of_exec (exec_ofFault_ok rfl) (.refl S w) ?_) ?_
      · rintro _ ⟨⟩
        exact ⟨rfl,rfl⟩
      rintro _ _ _ ⟨rfl,rfl⟩
      refine .bind (fieldNode_steady hS h) ?_
      rintro start u hu ⟨hstart,hhu⟩
      refine .bind .ofFault ?_
      rintro es _ _ rfl
      refine .bind (applyExpressions_steady (hS.mono hu.nodes_le) hstart hhu) ?_
      rintro j x _ ⟨hj,hx⟩
      refine .bind (P := fun _ _ => True) ?_ fun _ _ _ _ => .pure rfl
      exact .bind (validate_steady hj hx) fun _ _ _ _ => .pure trivial

/-! ## All fields -/

/-- The cell of the container is not among those that judging may write to. -/
theorem judgeField_keeps (h : w.HoldsDict i es) {r : Except Failure Value}
    (hx : (judgeField σ i field fieldRules).exec w = (r,u)) : u.HoldsDict i es := by
  have hs := judgeField_steady (σ := σ) (w.openFrom_scope w.nodes.size) (h.sound i h.lt) field
    fieldRules
  have hw := hs.world
  rw [hx] at hw
  exact h.extend hw id

/-- Putting back what has been read changes nothing but the records. -/
theorem exec_putBack_of_restores (h : w.HoldsDict i es) (hn : (Value.dict es).RestoresNaNs)
    {path : String} {v : Value} (hr : Path.read path (.dict es) .null = .ok v) :
    ∃ rs, (putBack (w.node i).value path v).exec w = (.ok (),{ w with records := rs }) := by
  cases hnan : v.isNaN with
  | false => exact ⟨w.records,exec_putBack_of_isNaN_eq_false hnan⟩
  | true =>
      have hres : Path.Resolves path (.dict es) v := by
        rcases Path.read_null_cases hr with rfl | hres
        · cases hnan
        · exact hres
      obtain ⟨hsignal,hwrite⟩ := hn _ _ hres hnan
      obtain ⟨rs,hput⟩ := exec_putBack_of_isNaN hnan hsignal w (w.node i).value path
      have hcell : w.cell (w.node i).value = .dict es := h.value
      rw [hcell,hwrite,← hcell,World.setIfInBounds_cell] at hput
      exact ⟨rs,hput⟩

/-- A field whose rules only judge is not written to if every NaN would be restored. -/
theorem applyField_parallel (hσ : σ.registry = Rules.standard mail) (h : w.HoldsDict i es)
    (hj : FieldOnlyJudges mail fieldRules) (hn : (Value.dict es).RestoresNaNs) (field : String) :
    Parallel World.Alike w w (applyField σ i field fieldRules)
      (discard (judgeField σ i field fieldRules)) := by
  have he := exec_applyField hσ h hj field
  have hd := exec_discard (judgeField σ i field fieldRules) w
  cases hx : (judgeField σ i field fieldRules).exec w with
  | mk r u =>
      rw [hx] at hd
      cases r with
      | error f =>
          rw [exec_bind_of_error hx] at he
          exact .of_exec he hd (.refl u)
      | ok current =>
          obtain ⟨hext,hread⟩ := (judgeField_steady (w.openFrom_scope w.nodes.size)
            (h.sound i h.lt) field fieldRules).of_ok hx
          rw [h.value] at hread
          obtain ⟨rs,hput⟩ := exec_putBack_of_restores (judgeField_keeps h hx) hn hread
          rw [exec_bind_of_ok hx,← (hext.node_grows i h.lt).value,hput] at he
          exact .of_exec he hd ⟨u.records,rfl⟩

theorem fields_parallel (hσ : σ.registry = Rules.standard mail) (hn : (Value.dict es).RestoresNaNs)
    {fields : Named Value} (hj : ∀ f ∈ fields, FieldOnlyJudges mail f.2) (h : w.HoldsDict i es)
    (hwu : w.Alike u) :
    Parallel World.Alike w u (fields.forM fun f => applyField σ i f.1 f.2)
      (fields.forM fun f => discard (judgeField σ i f.1 f.2)) := by
  induction fields generalizing w u with
  | nil => exact .pure _ hwu
  | cons f rest ih =>
      obtain ⟨hf,hrest⟩ := List.forall_mem_cons.mp hj
      have hblind : Blind (discard (judgeField σ i f.1 f.2)) :=
        (judgeField_blind σ i f.1 f.2).bind fun _ => .pure ()
      refine .bind ((applyField_parallel hσ h hf hn f.1).along hblind hwu) ?_
      intro a v v' _ hv' hvv'
      rw [exec_discard] at hv'
      have hx : (judgeField σ i f.1 f.2).exec u = (((judgeField σ i f.1 f.2).exec u).1,v') :=
        Prod.ext rfl (Prod.mk.inj hv').2
      exact ih hrest ((judgeField_keeps (h.alike hwu) hx).alike hvv'.symm) hvv'

theorem judgeFields_steady (hS : S.OpenFrom w.nodes.size) (h : w.Holds i)
    (fields : Named Value) : Steady S w (judgeFields σ i fields) fun _ _ => True := by
  have hall : ∀ {w : World}, S.OpenFrom w.nodes.size → w.Holds i →
      Steady S w (fields.forM fun f => discard (judgeField σ i f.1 f.2)) fun _ _ => True := by
    induction fields with
    | nil => exact fun _ _ => .pure trivial
    | cons f rest ih =>
        intro w hS h
        refine .bind (P := fun _ _ => True) ?_ ?_
        · exact .bind (judgeField_steady hS h f.1 f.2) fun _ _ _ _ => .pure trivial
        · exact fun _ u hu _ => ih (hS.mono hu.nodes_le) (h.extend hu)
  refine .get_bind ?_
  split
  · exact .bind (hall hS h) fun _ _ _ _ => .pure trivial
  · exact .throw

/-- A blank expression judges nothing, so that the value is only read and comes back. -/
theorem exec_judgeField_blank {path : String} {x : Value} {sensitive : Bool}
    (hs : splitField field = (path,sensitive))
    (hr : Path.read path (w.value i) .null = .ok x) :
    ∃ u, (judgeField σ i field (.text "")).exec w = (.ok x,u) := by
  obtain ⟨u,hu,-,hn⟩ := exec_fieldNode w i path sensitive x
  have hrules : ∃ rs, (applyExpressions σ w.nodes.size [""]).exec u =
      (.ok w.nodes.size,{ u with records := rs }) := ⟨_,rfl⟩
  obtain ⟨rs,hrules⟩ := hrules
  have hvalid : ({ u with records := rs } : World).valid w.nodes.size = true := by
    apply World.valid_of_isClean
    rw [World.node_push (u := { u with records := rs }) hn,if_pos rfl]
    rfl
  refine ⟨{ u with records := rs },?_⟩
  have hes : expressionsOf (.text "") = .ok [""] := rfl
  rw [World.value] at hr
  unfold judgeField
  rw [hs,exec_bind_of_ok (exec_nodeAt i w)]
  dsimp only
  rw [exec_bind_of_ok (exec_get w),exec_bind_of_ok (exec_ofFault_ok hr),exec_bind_of_ok hu,
    exec_bind_of_ok (exec_ofFault_ok hes),exec_bind_of_ok hrules]
  refine exec_bind_of_ok (a := ()) ?_ _
  rw [exec_discard,exec_validate_of_valid hvalid]
  rfl

theorem fieldOnlyJudges_blank : FieldOnlyJudges mail (.text "") := by
  intro es he
  cases he
  intro e he
  cases List.mem_singleton.mp he
  exact fun _ ha => nomatch ha

theorem exec_judgeFields_singleton (h : w.HoldsDict i es) {x : Value}
    (hx : (judgeField σ i field fieldRules).exec w = (.ok x,u)) :
    (judgeFields σ i [(field,fieldRules)]).exec w = (.ok i,u) := by
  have hd : (discard (judgeField σ i field fieldRules)).exec w = (.ok (),u) := by
    rw [exec_discard,hx]
    rfl
  rw [judgeFields,exec_bind_of_ok (exec_get w),h.value]
  exact exec_bind_of_ok (exec_bind_of_ok hd _) _

/-- All there is to applying a single field, once its value is found right, is that the value
is put back. -/
theorem exec_applyFields_singleton (hσ : σ.registry = Rules.standard mail) (h : w.HoldsDict i es)
    (hj : FieldOnlyJudges mail fieldRules) {x : Value}
    (hx : (judgeField σ i field fieldRules).exec w = (.ok x,u)) :
    u.HoldsDict i es ∧ (applyFields σ i [(field,fieldRules)]).exec w =
      (putBack (u.node i).value (splitField field).1 x >>= fun _ => pure i).exec u := by
  have hsteady := judgeField_steady (σ := σ) (w.openFrom_scope w.nodes.size) (h.sound i h.lt)
    field fieldRules
  have hnode := ((hsteady.of_ok hx).1.node_grows i h.lt).value
  have he := exec_applyField hσ h hj field
  rw [exec_bind_of_ok hx,← hnode] at he
  refine ⟨judgeField_keeps h hx,?_⟩
  rw [exec_applyFields h.value]
  change ((applyField σ i field fieldRules >>= fun _ => pure ()) >>= fun _ => pure i).exec w = _
  rw [bind_assoc,exec_bind,he,exec_bind]
  rfl

/-- A single field of a NaN that can be compared comes to what writing it at the path does. -/
theorem applyFields_of_isNaN (hσ : σ.registry = Rules.standard mail) (h : w.HoldsDict i es)
    (hj : FieldOnlyJudges mail fieldRules) {x : Value}
    (hx : ((judgeField σ i field fieldRules).exec w).1 = .ok x) (hnan : x.isNaN = true)
    (hsignal : x.isSignal = false) :
    ((applyFields σ i [(field,fieldRules)]).exec w).1 =
        (Path.write (splitField field).1 (.dict es) x).2.map (fun _ => i) ∧
      ((applyFields σ i [(field,fieldRules)]).exec w).2.value i =
        (Path.write (splitField field).1 (.dict es) x).1 := by
  obtain ⟨u,hxu⟩ : ∃ u, (judgeField σ i field fieldRules).exec w = (.ok x,u) :=
    ⟨_,Prod.ext hx rfl⟩
  obtain ⟨hu,happly⟩ := exec_applyFields_singleton hσ h hj hxu
  have hcell : u.cell (u.node i).value = .dict es := hu.value
  obtain ⟨rs,hput⟩ := exec_putBack_of_isNaN hnan hsignal u (u.node i).value
    (splitField field).1
  rw [hcell] at hput
  have hwritten : ∀ y : Value,
      (u.cells.setIfInBounds (u.node i).value y).getD (u.node i).value .null = y :=
    fun y => World.cell_set (u := { u with cells := _ }) rfl (hu.sound i hu.lt).value_lt
  rw [happly]
  cases hwrite : Path.write (splitField field).1 (.dict es) x with
  | mk y r =>
      rw [hwrite] at hput
      cases r with
      | error f =>
          rw [exec_bind_of_error hput]
          exact ⟨rfl,hwritten y⟩
      | ok _ =>
          rw [exec_bind_of_ok hput]
          exact ⟨rfl,hwritten y⟩

/-- Rules that only judge leave the container alone, and do what they would do if nothing
were ever compared or written back, exactly if every NaN that a path leads to would be
restored. -/
theorem untouched_iff (hσ : σ.registry = Rules.standard mail) (h : w.HoldsDict i es) :
    (∀ fields : Named Value, (∀ f ∈ fields, FieldOnlyJudges mail f.2) →
      Parallel World.Alike w w (applyFields σ i fields) (judgeFields σ i fields) ∧
        ((applyFields σ i fields).exec w).2.value i = .dict es) ↔
      (Value.dict es).RestoresNaNs := by
  constructor
  · intro hall path x hx hnan
    have hs : splitField ("#" ++ path) = (path,true) := by
      simp [splitField]
    obtain ⟨u,hu⟩ := exec_judgeField_blank (σ := σ) hs
      (h.value.symm ▸ Path.read_of_resolves hx .null)
    have hjudge := exec_judgeFields_singleton h hu
    obtain ⟨⟨hresult,-⟩,hvalue⟩ := hall [("#" ++ path,.text "")]
      (List.forall_mem_singleton.mpr fieldOnlyJudges_blank)
    rw [hjudge] at hresult
    dsimp only at hresult
    cases hsignal : x.isSignal with
    | true =>
        rw [(exec_applyFields_singleton hσ h fieldOnlyJudges_blank hu).2,
          exec_bind_of_error (exec_putBack_of_isSignal hsignal)] at hresult
        cases hresult
    | false =>
        obtain ⟨hwrite,hwritten⟩ := applyFields_of_isNaN hσ h fieldOnlyJudges_blank
          (congrArg Prod.fst hu) hnan hsignal
        rw [hs] at hwrite hwritten
        refine ⟨rfl,Prod.ext (hwritten.symm.trans hvalue) ?_⟩
        cases hr : (Path.write path (.dict es) x).2 with
        | ok _ => rfl
        | error f =>
            rw [hresult] at hwrite
            dsimp only at hwrite
            rw [hr] at hwrite
            cases hwrite
  · intro hn fields hj
    have hp : Parallel World.Alike w w (applyFields σ i fields) (judgeFields σ i fields) := by
      refine .get_bind ?_
      rw [h.value]
      exact .bind (fields_parallel hσ hn hj h (.refl w)) fun _ _ _ _ _ hv => .pure i hv
    have hs := (judgeFields_steady (σ := σ) (w.openFrom_scope w.nodes.size) (h.sound i h.lt)
      fields).world
    exact ⟨hp,((h.extend hs id).alike hp.world.symm).value⟩

/-- A chain that is begun with a dictionary. -/
theorem seed_holdsDict (es : List (Value × Value)) (field : Option String) (sensitive : Bool) :
    ((seed (.dict es) field sensitive).exec .empty).2.HoldsDict 0 es := by
  obtain ⟨u,hu,hc,hn⟩ := exec_seed (.dict es) field sensitive .empty
  obtain ⟨hext,-⟩ := (seedOn_steady (Scope.openFrom_all _)).of_ok hu
  have hnode := World.node_push hn 0
  rw [hu]
  refine ⟨World.sound_empty.extend hext,?_,?_,?_⟩
  · simp [hn,World.empty]
  · rw [hnode]
    rfl
  · rw [World.value,hnode]
    exact World.cell_push hc _

/-- A NaN that is written back to where it has been read from. -/
theorem untouched_score :
    let σ : Setting := ⟨Rules.standard .none,.standard,false⟩
    let es : List (Value × Value) := [(.text "score",.float .nan)]
    let w := ((seed (.dict es) none false).exec .empty).2
    w.HoldsDict 0 es ∧ (Value.dict es).RestoresNaNs ∧
      ((applyFields σ 0 [("score",.text "float;lt,1|req")]).exec w).2.value 0 = .dict es := by
  intro σ es w
  have h : w.HoldsDict 0 es := seed_holdsDict es none false
  have hn : (Value.dict es).RestoresNaNs := by
    rintro path x ⟨ks,hk,hr⟩ hnan
    cases hr with
    | here => cases hnan
    | step hc hrest =>
        obtain ⟨rfl,rfl⟩ := Value.eq_of_holds_entry hc
        cases hrest with
        | step hc' _ =>
            cases hc' with
            | item hv => cases hv
        | here =>
            refine ⟨rfl,?_⟩
            rw [Path.write_eq_fill hk (by simp)]
            with_unfolding_all rfl
  have hj : FieldOnlyJudges .none (.text "float;lt,1|req") := by
    rintro _ ⟨⟩
    rw [List.forall_mem_singleton]
    exact onlyJudges_of_names (by decide)
  exact ⟨h,hn,((untouched_iff (σ := σ) rfl h).mpr hn _ (List.forall_mem_singleton.mpr hj)).2⟩

/-- A NaN under a text that spells a number is written over what is under the number, and one
in a tuple, where nothing can be written, makes the rules fail. -/
theorem not_untouched :
    let σ : Setting := ⟨Rules.standard .none,.standard,false⟩
    let es : List (Value × Value) :=
      [(.text "5",.float .nan),(.int 5,.int 1),(.text "t",.tuple [.float .nan])]
    let w := ((seed (.dict es) none false).exec .empty).2
    FieldOnlyJudges .none (.text "float") ∧
      ((applyFields σ 0 [("5",.text "float")]).exec w).1 = .ok 0 ∧
      ((applyFields σ 0 [("5",.text "float")]).exec w).2.value 0 =
        .dict [(.text "5",.float .nan),(.int 5,.float .nan),(.text "t",.tuple [.float .nan])] ∧
      ((applyFields σ 0 [("t.0",.text "float")]).exec w).1 =
        .error (.cannotAssign (.name "0".toList) .tuple) := by
  intro σ es w
  have h : w.HoldsDict 0 es := seed_holdsDict es none false
  have hj : FieldOnlyJudges .none (.text "float") := by
    rintro _ ⟨⟩
    rw [List.forall_mem_singleton]
    exact onlyJudges_of_names (by decide)
  have hfive : ((judgeField σ 0 "5" (.text "float")).exec w).1 = .ok (.float .nan) := by
    with_unfolding_all rfl
  have htuple : ((judgeField σ 0 "t.0" (.text "float")).exec w).1 = .ok (.float .nan) := by
    with_unfolding_all rfl
  obtain ⟨hone,hwritten⟩ := applyFields_of_isNaN rfl h hj hfive rfl rfl
  obtain ⟨htwo,-⟩ := applyFields_of_isNaN rfl h hj htuple rfl rfl
  refine ⟨hj,hone.trans ?_,hwritten.trans ?_,htwo.trans ?_⟩ <;> with_unfolding_all rfl

end Run

end Vetting
