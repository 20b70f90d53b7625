import Vetting.Proofs.Chain.FieldRun

/-!
# A reference for the rules for fields

The reference goes through the fields from left to right and knows of nothing but the
data: it reads the value at a path, takes what the alternatives come to by themselves on
that value, and writes the last clean result back, until a field fails. A chain on a
dictionary does the same with it, and leaves the same data also when it fails.
-/
namespace Vetting

namespace Fields

/-- The data after a field, and how the field ends. -/
def step (σ : Setting) (data : Value) (f : String × Value) : Value × Except Failure Unit :=
  match Field.evaluate σ data f.1 f.2 with
  | .error e => (data,.error e)
  | .ok (current,rs) => Field.settle σ data (splitField f.1).1 current rs.reverse

/-- The data after all fields or after the first one that fails. -/
def reference (σ : Setting) (data : Value) : Named Value → Value × Except Failure Unit
  | [] => (data,.ok ())
  | f :: rest =>
      match step σ data f with
      | (next,.ok ()) => reference σ next rest
      | (next,.error e) => (next,.error e)

/-- Without a fallback, a field is a step of the reference. -/
theorem run_nil (σ : Setting) (data : Value) (f : String × Value) :
    Field.run σ [] data f.1 f.2 = step σ data f := by
  rw [Field.run,step]
  cases Field.evaluate σ data f.1 f.2 with
  | error e => rfl
  | ok r =>
      obtain ⟨current,rs⟩ := r
      dsimp only
      rw [List.append_nil]

end Fields

namespace Run
variable {σ : Setting} {w : World} {k : Nat}

theorem fields_leave (hσ : σ.throwEarly = false) (h : w.Holds k)
    (hp : (w.node k).parent = none) (fields : Named Value) :
    Leaves w (fields.forM fun f => applyField σ k f.1 f.2) (w.node k).value
      (Fields.reference σ (w.value k) fields) := by
  induction fields generalizing w with
  | nil => exact .of_exec (exec_pure () w) rfl
  | cons f rest ih =>
      have hl := applyField_leaves hσ h f.1 f.2
        (by rw [World.ancestors_of_root hp]; exact fun _ hn => nomatch hn)
      rw [World.ancestors_of_root hp,List.map_nil,Fields.run_nil] at hl
      have hall : Steady .all w (applyField σ k f.1 f.2) fun _ _ => True :=
        applyField_steady (Scope.openFrom_all _) h trivial
      have hs := hall.world
      rw [Fields.reference]
      cases hx : (applyField σ k f.1 f.2).exec w with
      | mk r u =>
          rw [hx] at hs
          obtain ⟨hr,hc⟩ := hl
          rw [hx] at hr hc
          cases r with
          | error e =>
              have he : Fields.step σ (w.value k) f = (u.cell (w.node k).value,.error e) :=
                Prod.ext hc.symm hr.symm
              rw [he]
              exact .bind_error hx rfl
          | ok a =>
              have he : Fields.step σ (w.value k) f = (u.cell (w.node k).value,.ok ()) :=
                Prod.ext hc.symm hr.symm
              have hg := hs.node_grows k h.lt
              have hu := ih (h.extend hs) (hg.parent.trans hp)
              rw [World.value,hg.value] at hu
              rw [he]
              exact .of_bind hx hu

theorem exec_applyFields {es : List (Value × Value)} (hv : w.value k = .dict es)
    (fields : Named Value) :
    (applyFields σ k fields).exec w =
      (do
        fields.forM fun f => applyField σ k f.1 f.2
        return k : Run Nat).exec w := by
  unfold applyFields
  rw [exec_bind_of_ok (exec_get w),hv]

/-- The rules for the fields of a dictionary come to what the reference comes to: they
fail if and as it does, and return the node of the dictionary otherwise; and the node
then refers to the data that the reference leaves, in either case. The registry may be any
one of rules that give a verdict or a new value. -/
theorem applyFields_eq_reference (hσ : σ.throwEarly = false) (w : World)
    (es : List (Value × Value)) (fields : Named Value) :
    let x : Run Nat := do applyFields σ (← seed (.dict es) none false) fields
    let r := Fields.reference σ (.dict es) fields
    (x.exec w).1 = r.2.map (fun _ => w.nodes.size) ∧
      (x.exec w).2.value w.nodes.size = r.1 := by
  intro x r
  obtain ⟨u,hs,-⟩ := exec_seed (.dict es) none false w
  obtain ⟨hf,hp⟩ := seed_fresh hs
  have hx : x.exec w = (applyFields σ w.nodes.size fields).exec u := exec_bind_of_ok hs _
  have hv : u.value w.nodes.size = .dict es := by
    rw [World.value,hf.value_eq]
    exact hf.initial
  have hl := fields_leave hσ hf.holds hp fields
  have hall : Steady .all u (fields.forM fun f => applyField σ w.nodes.size f.1 f.2)
      fun _ _ => True :=
    fields_steady (Scope.openFrom_all _) hf.holds trivial
  have hg := hall.world.node_grows _ hf.holds.lt
  rw [hv] at hl
  obtain ⟨hr,hc⟩ := hl
  rw [hx,exec_applyFields hv,exec_bind]
  cases he : (fields.forM fun f => applyField σ w.nodes.size f.1 f.2 : Run Unit).exec u with
  | mk a v =>
      rw [he] at hr hc hg
      have hvalue : v.value w.nodes.size = r.1 := by
        rw [World.value,hg.value]
        exact hc
      cases a with
      | error e => exact ⟨congrArg (Except.map fun _ => w.nodes.size) hr,hvalue⟩
      | ok _ => exact ⟨congrArg (Except.map fun _ => w.nodes.size) hr,hvalue⟩

/-- A name that is trimmed, and an age that is not null. -/
theorem applyFields_eq_reference_form :
    let σ : Setting := ⟨Rules.standard .none,.silent,false⟩
    let es := [(.text "name",.text " Bob "),(.text "age",.int 5)]
    let fields := [("#name",.text "req;asTrim"),("age",.text "null")]
    let x : Run Nat := do applyFields σ (← seed (.dict es) none false) fields
    let r := Fields.reference σ (.dict es) fields
    (x.exec .empty).1 = r.2.map (fun _ => 0) ∧ (x.exec .empty).2.value 0 = r.1 :=
  applyFields_eq_reference rfl .empty _ _

end Run

end Vetting
