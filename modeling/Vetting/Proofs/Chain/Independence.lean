import Vetting.Proofs.Chain.Reference
import Vetting.Proofs.Place.Commutation

/-!
# Independent fields

What the rules for a field want to write depends on the value at its path and on nothing
else. So two fields whose paths part can be taken in either order: neither sees what the
other writes, and the writes come to the same. One exception is a key that cannot be
looked for, a name made of digit signs that spells no number: it stops a reading only if
there is a container to look into, which the other field may have to make first.
-/
namespace Vetting

namespace Field

/-- What the rules for a field want to have written at its path where they read a value. -/
def plan (σ : Setting) (f : String × Value) (current : Value) :
    Except Failure (Option Value) := do
  let es ← orFail (expressionsOf f.2)
  let rs ← allOutcomes σ current (splitField f.1).1 (splitField f.1).2 es
  match rs.reverse.find? Strand.isClean with
  | none =>
      refuse σ (splitField f.1).1 (rs.reverse.flatMap Strand.errors)
      return none
  | some b =>
      let differs ← orFail (b.value.differs (!b.moved) current)
      return if differs || b.value.kind != current.kind then some b.value else none

end Field

namespace Fields
variable {σ : Setting} {data u w : Value} {f g : String × Value} {before ks ls : List Key}
  {k l : Key}

/-- A field that passes, and the data that it leaves. -/
def Takes (σ : Setting) (f : String × Value) (data u : Value) : Prop :=
  step σ data f = (u,.ok ())

/-- A step reads, then plans, then writes. -/
theorem step_eq_plan (σ : Setting) (data : Value) (f : String × Value) :
    step σ data f = match Path.read (splitField f.1).1 data .null with
      | .error e => (data,.error (.fault e))
      | .ok current => match Field.plan σ f current with
        | .error e => (data,.error e)
        | .ok none => (data,.ok ())
        | .ok (some x) => Path.write (splitField f.1).1 data x := by
  unfold step Field.evaluate Field.plan
  cases Path.read (splitField f.1).1 data .null with
  | error e => rfl
  | ok current =>
      simp only [orFail,bind,Except.bind]
      cases expressionsOf f.2 with
      | error e => rfl
      | ok es =>
          dsimp only
          cases Field.allOutcomes σ current (splitField f.1).1 (splitField f.1).2 es with
          | error e => rfl
          | ok rs =>
              dsimp only
              unfold Field.settle
              cases rs.reverse.find? Strand.isClean with
              | none =>
                  obtain ⟨e,he⟩ := Field.refuse_eq_error σ (splitField f.1).1
                    (rs.reverse.flatMap Strand.errors)
                  simp only [he]
              | some b =>
                  dsimp only
                  cases b.value.differs (!b.moved) current with
                  | error e => rfl
                  | ok differs =>
                      dsimp only
                      split <;> rfl

theorem takes_iff (hk : Path.keys? (splitField f.1).1 = some ks) (hks : ks ≠ []) :
    Takes σ f data u ↔ ∃ current, data.seen ks = .ok current ∧
      ((Field.plan σ f current = .ok none ∧ u = data) ∨
        ∃ x, Field.plan σ f current = .ok (some x) ∧ data.Fills ks x u) := by
  have hread : Path.read (splitField f.1).1 data .null = data.seen ks :=
    Path.read_of_keys hk data .null
  unfold Takes
  rw [step_eq_plan,hread]
  cases data.seen ks with
  | error e => simp
  | ok current =>
      cases hp : Field.plan σ f current with
      | error e => simp [hp]
      | ok o =>
          cases o with
          | none => simp [hp,@eq_comm _ u]
          | some x => simp [hp,Path.write_eq_fill hk hks,Value.Fills]

/-- Two fields whose paths part can be taken in the other order. -/
theorem Takes.comm (hp : Key.Parting before k l) (hk : k.Legible) (hl : l.Legible)
    (hf : Path.keys? (splitField f.1).1 = some (before ++ k :: ks))
    (hg : Path.keys? (splitField g.1).1 = some (before ++ l :: ls))
    (h : Takes σ f data u) (h' : Takes σ g u w) :
    ∃ u' w', Takes σ g data u' ∧ Takes σ f u' w' ∧ w.Reordered w' := by
  rw [takes_iff hf (by simp)] at h
  rw [takes_iff hg (by simp)] at h'
  simp only [takes_iff hf (List.append_ne_nil_of_right_ne_nil before (List.cons_ne_nil k ks)),
    takes_iff hg (List.append_ne_nil_of_right_ne_nil before (List.cons_ne_nil l ls))]
  obtain ⟨current,hseen,h⟩ := h
  obtain ⟨current',hseen',h'⟩ := h'
  rcases h with ⟨hplan,rfl⟩ | ⟨x,hplan,hx⟩
  · rcases h' with ⟨hplan',rfl⟩ | ⟨y,hplan',hy⟩
    · -- Neither field writes.
      exact ⟨_,_,⟨current',hseen',Or.inl ⟨hplan',rfl⟩⟩,⟨current,hseen,Or.inl ⟨hplan,rfl⟩⟩,
        .refl _⟩
    · -- Only the second field writes, where the first one does not look.
      exact ⟨w,w,⟨current',hseen',Or.inr ⟨y,hplan',hy⟩⟩,
        ⟨current,(hy.seen_eq hp.symm hk).trans hseen,Or.inl ⟨hplan,rfl⟩⟩,.refl w⟩
  · rw [hx.seen_eq hp hl] at hseen'
    rcases h' with ⟨hplan',rfl⟩ | ⟨y,hplan',hy⟩
    · exact ⟨data,w,⟨current',hseen',Or.inl ⟨hplan',rfl⟩⟩,
        ⟨current,hseen,Or.inr ⟨x,hplan,hx⟩⟩,.refl w⟩
    · obtain ⟨u',w',hy',hx',hw⟩ := hx.comm hp hy
      exact ⟨u',w',⟨current',hseen',Or.inr ⟨y,hplan',hy'⟩⟩,
        ⟨current,(hy'.seen_eq hp.symm hk).trans hseen,Or.inr ⟨x,hplan,hx'⟩⟩,hw⟩

theorem reference_pair : reference σ data [f,g] = (w,.ok ()) ↔
    ∃ u, Takes σ f data u ∧ Takes σ g u w := by
  unfold Takes
  constructor
  · intro h
    rw [reference] at h
    split at h
    · rename_i u hu
      refine ⟨u,hu,?_⟩
      rw [reference] at h
      split at h
      · rename_i hw
        rw [hw]
        exact h
      · cases h
    · cases h
  · rintro ⟨u,hu,hw⟩
    rw [reference,hu]
    dsimp only
    rw [reference,hw]
    rfl

end Fields

/-- Rules for the fields of data, on a chain of their own. -/
def Run.fieldsOf (σ : Setting) (data : Value) (fields : Named Value) : Run Nat := do
  applyFields σ (← seed data none false) fields

namespace World

/-- A run comes to a node, which has a value in the end. -/
def Returns (w : World) (x : Run Nat) (v : Value) : Prop :=
  ∃ i u, x.exec w = (.ok i,u) ∧ u.value i = v

theorem Returns.unique {w : World} {x : Run Nat} {v v' : Value} (h : w.Returns x v)
    (h' : w.Returns x v') : v = v' := by
  obtain ⟨i,u,hx,hv⟩ := h
  obtain ⟨j,u',hx',hv'⟩ := h'
  rw [hx] at hx'
  cases hx'
  exact hv.symm.trans hv'

end World

namespace Run
variable {σ : Setting} {w : World} {data v : Value} {fields : Named Value}

/-- Rules for fields are for dictionaries only. -/
theorem not_returns_fieldsOf (hd : ∀ es, data ≠ .dict es) (w : World) :
    ¬ w.Returns (fieldsOf σ data fields) v := by
  rintro ⟨i,u,hx,-⟩
  obtain ⟨u₀,hs,-⟩ := exec_seed data none false w
  obtain ⟨hf,-⟩ := seed_fresh hs
  have hv : u₀.value w.nodes.size = data := by
    rw [World.value,hf.value_eq]
    exact hf.initial
  have he : (applyFields σ w.nodes.size fields).exec u₀ = (.ok i,u) :=
    (exec_bind_of_ok hs _).symm.trans hx
  unfold applyFields at he
  rw [exec_bind_of_ok (exec_get u₀),hv] at he
  cases data with
  | dict es => exact hd es rfl
  | _ => cases he

/-- They come to their end as the reference does, and with its data. -/
theorem returns_fieldsOf (hσ : σ.throwEarly = false) (w : World) (es : List (Value × Value)) :
    w.Returns (fieldsOf σ (.dict es) fields) v ↔
      Fields.reference σ (.dict es) fields = (v,.ok ()) := by
  obtain ⟨u,hs,-⟩ := exec_seed (.dict es) none false w
  obtain ⟨hf,hp⟩ := seed_fresh hs
  have hv : u.value w.nodes.size = .dict es := by
    rw [World.value,hf.value_eq]
    exact hf.initial
  have hx : (fieldsOf σ (.dict es) fields).exec w =
      ((fields.forM fun f => applyField σ w.nodes.size f.1 f.2) >>=
        fun _ => (pure w.nodes.size : Run Nat)).exec u :=
    (exec_bind_of_ok hs _).trans (exec_applyFields hv fields)
  have hl := fields_leave hσ hf.holds hp fields
  have hall : Steady .all u (fields.forM fun f => applyField σ w.nodes.size f.1 f.2)
      fun _ _ => True :=
    fields_steady (Scope.openFrom_all _) hf.holds trivial
  have hg := hall.world.node_grows _ hf.holds.lt
  rw [hv] at hl
  obtain ⟨hr,hc⟩ := hl
  unfold World.Returns
  rw [hx,exec_bind]
  cases he : (fields.forM fun f => applyField σ w.nodes.size f.1 f.2 : Run Unit).exec u with
  | mk a x =>
      rw [he] at hr hc hg
      have hvalue : x.value w.nodes.size = (Fields.reference σ (.dict es) fields).1 := by
        rw [World.value,hg.value]
        exact hc
      constructor
      · rintro ⟨i,y,hy,rfl⟩
        cases a with
        | error e => cases hy
        | ok _ =>
            cases hy
            exact Prod.ext hvalue.symm hr.symm
      · intro h
        rw [h] at hr hvalue
        dsimp only at hr hvalue
        rw [hr]
        exact ⟨w.nodes.size,x,rfl,hvalue⟩

end Run

section
variable {σ : Setting} {f g : String × Value} {before ks ls : List Key} {k l : Key}

theorem fieldsOf_swap (hσ : σ.throwEarly = false) (hp : Key.Parting before k l)
    (hk : k.Legible) (hl : l.Legible)
    (hf : Path.keys? (splitField f.1).1 = some (before ++ k :: ks))
    (hg : Path.keys? (splitField g.1).1 = some (before ++ l :: ls)) {w : World}
    {data v : Value} (h : w.Returns (Run.fieldsOf σ data [f,g]) v) :
    ∃ v', w.Returns (Run.fieldsOf σ data [g,f]) v' ∧ v.Reordered v' := by
  by_cases hd : ∃ es, data = .dict es
  · obtain ⟨es,rfl⟩ := hd
    rw [Run.returns_fieldsOf hσ,Fields.reference_pair] at h
    obtain ⟨u,hu,hv⟩ := h
    obtain ⟨u',v',hu',hv',hvv'⟩ := hu.comm hp hk hl hf hg hv
    refine ⟨v',?_,hvv'⟩
    rw [Run.returns_fieldsOf hσ,Fields.reference_pair]
    exact ⟨u',hu',hv'⟩
  · exact (Run.not_returns_fieldsOf (fun es he => hd ⟨es,he⟩) w h).elim

/-- The order of two fields whose paths part does not matter, as long as both keys where
they part can be looked for: the rules come to their end in both orders or in neither,
and the data are the same but for the order of entries. Any registry will do, as its rules
give a verdict or a new value. -/
theorem fields_commute (hσ : σ.throwEarly = false) (hp : Key.Parting before k l)
    (hk : k.Legible) (hl : l.Legible)
    (hf : Path.keys? (splitField f.1).1 = some (before ++ k :: ks))
    (hg : Path.keys? (splitField g.1).1 = some (before ++ l :: ls)) (w : World)
    (data : Value) :
    ((∃ v, w.Returns (Run.fieldsOf σ data [f,g]) v) ↔
      ∃ v, w.Returns (Run.fieldsOf σ data [g,f]) v) ∧
    ∀ v v', w.Returns (Run.fieldsOf σ data [f,g]) v →
      w.Returns (Run.fieldsOf σ data [g,f]) v' → v.Reordered v' := by
  refine ⟨⟨?_,?_⟩,?_⟩
  · rintro ⟨v,hv⟩
    obtain ⟨v',hv',-⟩ := fieldsOf_swap hσ hp hk hl hf hg hv
    exact ⟨v',hv'⟩
  · rintro ⟨v,hv⟩
    obtain ⟨v',hv',-⟩ := fieldsOf_swap hσ hp.symm hl hk hg hf hv
    exact ⟨v',hv'⟩
  · intro v v' hv hv'
    obtain ⟨x,hx,hvx⟩ := fieldsOf_swap hσ hp hk hl hf hg hv
    rw [hv'.unique hx]
    exact hvx

/-- A name and an address of a user that is missing: the first field makes the user. -/
theorem fields_commute_user :
    let σ : Setting := ⟨Rules.standard .none,.standard,false⟩
    let f := ("user.name",Value.text "asTrim")
    let g := ("#user.mail",Value.text "asTrim")
    let data : Value := .dict [(.text "user",.null)]
    let v : Value :=
      .dict [(.text "user",.dict [(.text "name",.text ""),(.text "mail",.text "")])]
    let v' : Value :=
      .dict [(.text "user",.dict [(.text "mail",.text ""),(.text "name",.text "")])]
    World.empty.Returns (Run.fieldsOf σ data [f,g]) v ∧
      World.empty.Returns (Run.fieldsOf σ data [g,f]) v' ∧ v.Reordered v' := by
  have hp : Key.Parting [.name "user".toList] (.name "name".toList) (.name "mail".toList) :=
    ⟨by decide,by decide,by decide,by decide⟩
  have hf : Path.keys? (splitField "user.name").1 =
      some ([.name "user".toList] ++ .name "name".toList :: []) := by
    with_unfolding_all rfl
  have hg : Path.keys? (splitField "#user.mail").1 =
      some ([.name "user".toList] ++ .name "mail".toList :: []) := by
    with_unfolding_all rfl
  have hfg : Fields.reference ⟨Rules.standard .none,.standard,false⟩ (.dict [(.text "user",.null)])
      [("user.name",.text "asTrim"),("#user.mail",.text "asTrim")] =
      (.dict [(.text "user",.dict [(.text "name",.text ""),(.text "mail",.text "")])],
        .ok ()) := by
    with_unfolding_all rfl
  have hgf : Fields.reference ⟨Rules.standard .none,.standard,false⟩ (.dict [(.text "user",.null)])
      [("#user.mail",.text "asTrim"),("user.name",.text "asTrim")] =
      (.dict [(.text "user",.dict [(.text "mail",.text ""),(.text "name",.text "")])],
        .ok ()) := by
    with_unfolding_all rfl
  intro σ f g data v v'
  have hv : World.empty.Returns (Run.fieldsOf σ data [f,g]) v :=
    (Run.returns_fieldsOf rfl .empty _).mpr hfg
  have hv' : World.empty.Returns (Run.fieldsOf σ data [g,f]) v' :=
    (Run.returns_fieldsOf rfl .empty _).mpr hgf
  have hσ : σ.throwEarly = false := rfl
  obtain ⟨-,hsame⟩ := fields_commute (f := f) (g := g) hσ hp (by decide) (by decide) hf hg
    .empty data
  exact ⟨hv,hv',hsame v v' hv hv'⟩

/-- The second name can be looked for in no dictionary. With the other field first, there
is a dictionary to look into. -/
theorem fields_not_commute :
    let σ : Setting := ⟨Rules.standard .none,.standard,false⟩
    let f := ("a.b",Value.text "asTrim")
    let g := ("a.²",Value.text "")
    Key.Parting [.name "a".toList] (.name "b".toList) (.name "²".toList) ∧
      Path.keys? (splitField f.1).1 = some [.name "a".toList,.name "b".toList] ∧
      Path.keys? (splitField g.1).1 = some [.name "a".toList,.name "²".toList] ∧
      World.empty.Returns (Run.fieldsOf σ (.dict []) [g,f])
        (.dict [(.text "a",.dict [(.text "b",.text "")])]) ∧
      ¬ ∃ v, World.empty.Returns (Run.fieldsOf σ (.dict []) [f,g]) v := by
  have hgf : Fields.reference ⟨Rules.standard .none,.standard,false⟩ (.dict [])
      [("a.²",.text ""),("a.b",.text "asTrim")] =
      (.dict [(.text "a",.dict [(.text "b",.text "")])],.ok ()) := by
    with_unfolding_all rfl
  have hfg : (Fields.reference ⟨Rules.standard .none,.standard,false⟩ (.dict [])
      [("a.b",.text "asTrim"),("a.²",.text "")]).2 = .error (.fault .badValue) := by
    with_unfolding_all rfl
  have hf : Path.keys? (splitField "a.b").1 = some [.name "a".toList,.name "b".toList] := by
    with_unfolding_all rfl
  have hg : Path.keys? (splitField "a.²").1 = some [.name "a".toList,.name "²".toList] := by
    with_unfolding_all rfl
  intro σ f g
  refine ⟨⟨by decide,by decide,by decide,by decide⟩,hf,hg,?_,?_⟩
  · exact (Run.returns_fieldsOf rfl .empty _).mpr hgf
  · rintro ⟨v,hv⟩
    have hr := (Run.returns_fieldsOf rfl .empty []).mp hv
    cases (congrArg Prod.snd hr).symm.trans hfg

end

end Vetting
