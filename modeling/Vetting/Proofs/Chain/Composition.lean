import Vetting.Proofs.Chain.FieldRun
import Vetting.Proofs.Chain.Parallel

/-!
# Expressions put together

A bar between two expressions starts an alternative to what the first one leaves, and a
semicolon goes on from it: one expression with the separator does what the two do one
after the other. Likewise a list of expressions for a field does what a single expression
with bars between them does. The two sides differ in nothing but the records, of which
there is one for each expression; so it is shown first that records are never looked at.
-/
namespace Vetting

namespace World
variable {w u v : World}

/-- Worlds that differ in their records at most. -/
def Alike (w u : World) : Prop := ∃ rs, u = { w with records := rs }

namespace Alike

theorem refl (w : World) : w.Alike w := ⟨w.records,rfl⟩

theorem symm (h : w.Alike u) : u.Alike w := by
  obtain ⟨rs,rfl⟩ := h
  exact ⟨w.records,rfl⟩

theorem trans (h : w.Alike u) (h' : u.Alike v) : w.Alike v := by
  obtain ⟨rs,rfl⟩ := h
  obtain ⟨ts,rfl⟩ := h'
  exact ⟨ts,rfl⟩

theorem lineage (h : w.Alike u) (i : Nat) : u.lineage i = w.lineage i := by
  obtain ⟨rs,rfl⟩ := h
  exact lineage_congr fun _ _ => rfl

theorem valid (h : w.Alike u) (i : Nat) : u.valid i = w.valid i := by
  rw [World.valid,World.valid,h.lineage]

theorem errors (h : w.Alike u) (i : Nat) : u.errors i = w.errors i := by
  rw [World.errors,World.errors,h.lineage,h.valid]

theorem result? (h : w.Alike u) (i : Nat) : u.result? i = w.result? i := by
  rw [World.result?,World.result?,h.lineage]

theorem get (h : w.Alike u) (i : Nat) : u.get i = w.get i := by
  rw [World.get,World.get,h.result?]
  obtain ⟨rs,rfl⟩ := h
  rfl

end Alike

end World

namespace Run
variable {α β : Type} {σ : Setting} {w u : World} {i j : Nat}

/-- A run that does not look at records. -/
def Blind (x : Run α) : Prop := ∀ w u : World, w.Alike u → Parallel World.Alike w u x x

namespace Blind

theorem pure (a : α) : Blind (Pure.pure a : Run α) := fun _ _ h => .pure a h

theorem throw (f : Failure) : Blind (MonadExcept.throw f : Run α) := fun _ _ h => .throw f h

theorem bind {x : Run α} {f : α → Run β} (hx : Blind x) (hf : ∀ a, Blind (f a)) :
    Blind (x >>= f) :=
  fun w u h => .bind (hx w u h) fun a v v' _ _ hv => hf a v v' hv

/-- What is done with the world that is read must not depend on its records. -/
theorem get_bind {f : World → Run β} (hf : ∀ w, Blind (f w))
    (hr : ∀ w u, w.Alike u → f u = f w) : Blind (get >>= f) := by
  intro w u h
  refine .get_bind ?_
  rw [hr w u h]
  exact hf w w u h

theorem nodeAt_bind {f : Node → Run β} (hf : ∀ n, Blind (f n)) :
    Blind (nodeAt i >>= f) := by
  rintro w _ ⟨rs,rfl⟩
  exact .nodeAt_bind (hf _ _ _ ⟨rs,rfl⟩)

theorem ofExcept (r : Except Failure α) : Blind (Run.ofExcept r) :=
  fun _ _ h => .ofExcept r h

theorem ofFault (r : Except Fault α) : Blind (Run.ofFault r) := ofExcept _

theorem log (l : Level) (m : String) : Blind (Run.log l m) := by
  rintro w _ ⟨rs,rfl⟩
  exact .of_exec (exec_log l m _) (exec_log l m _) ⟨_,rfl⟩

theorem store (v : Value) : Blind (Run.store v) := by
  rintro w _ ⟨rs,rfl⟩
  exact .of_exec (exec_store v _) (exec_store v _) ⟨rs,rfl⟩

theorem addNode (n : Node) : Blind (Run.addNode n) := by
  rintro w _ ⟨rs,rfl⟩
  exact .of_exec (exec_addNode n _) (exec_addNode n _) ⟨rs,rfl⟩

theorem addCheck (i : Nat) (c : Check) : Blind (Run.addCheck i c) := by
  rintro w _ ⟨rs,rfl⟩
  exact .of_exec (exec_addCheck i c _) (exec_addCheck i c _) ⟨rs,rfl⟩

theorem translate (σ : Setting) (key : Value) (context : Named Value) :
    Blind (Run.translate σ key context) := by
  rintro w _ ⟨rs,rfl⟩
  exact .of_exec (exec_translate σ key context _) (exec_translate σ key context _) ⟨rs,rfl⟩

end Blind

theorem check_blind (σ : Setting) (i : Nat) (passed : Bool) (message : Value) (rule : String)
    (fields : Named Value) : Blind (check σ i passed message rule fields) := by
  have hfail : ∀ n s, Blind (check.fail σ i rule n s) := by
    intro n s
    unfold check.fail
    split
    · exact .throw _
    · exact .addCheck i _
  unfold check
  split
  · exact .addCheck i _
  · refine .get_bind ?_ ?_
    · intro w
      refine .bind (.translate σ _ _) fun translated => ?_
      split
      · exact hfail _ _
      · exact hfail _ _
      · exact .throw _
    · rintro w _ ⟨rs,rfl⟩
      rfl

theorem derive_blind (i : Nat) (v : Value) : Blind (derive i v) :=
  .bind (.store v) fun _ => .nodeAt_bind fun _ => .addNode _

theorem apply_blind (σ : Setting) (i : Nat) (name : String) (args : List Value)
    (byName : Named Value) : Blind (apply σ i name args byName) := by
  have hconclude : ∀ o, Blind (conclude σ i o) := by
    intro o
    cases o with
    | verdict passed message rule fields =>
        exact .bind (check_blind σ i passed message rule fields) fun _ => .pure i
    | replaced v => exact derive_blind i v
  unfold apply applyUnder
  split
  · exact .throw _
  · cases σ.registry.get? name with
    | none => exact .throw _
    | some r =>
        refine .get_bind ?_ ?_
        · exact fun w => .bind (.ofExcept _) hconclude
        · rintro w _ ⟨rs,rfl⟩
          rfl

theorem applyStep_blind (σ : Setting) (i : Nat) (s : Step) : Blind (applyStep σ i s) := by
  unfold applyStep
  split
  · exact .pure i
  · refine .bind ?_ fun args => apply_blind σ i _ args []
    unfold stepArguments
    split
    · exact .pure _
    · split
      · exact .bind (.log _ _) fun _ => .pure _
      · exact .pure _

theorem steps_blind (σ : Setting) (i : Nat) (a : Alternative) :
    Blind (a.foldlM (applyStep σ) i) := by
  induction a generalizing i with
  | nil => exact .pure i
  | cons s rest ih =>
      rw [List.foldlM_cons]
      exact .bind (applyStep_blind σ i s) ih

theorem fork_blind (i : Nat) : Blind (fork i) := .nodeAt_bind fun _ => .addNode _

theorem applyAlternatives_blind (σ : Setting) (i : Nat) (as : List Alternative) :
    Blind (applyAlternatives σ i as) := by
  induction as generalizing i with
  | nil => exact .pure i
  | cons a rest ih =>
      refine .bind (steps_blind σ i a) fun j => ?_
      split
      · exact .pure j
      · exact .bind (fork_blind j) ih

theorem validate_blind (σ : Setting) (i : Nat) : Blind (validate σ i) := by
  refine .get_bind ?_ ?_
  · intro w
    split
    · exact .pure i
    · exact .bind (.translate σ _ _) fun _ => .bind (.log _ _) fun _ => .throw _
  · intro w u h
    have hn : u.node i = w.node i := by
      obtain ⟨rs,rfl⟩ := h
      rfl
    rw [h.valid,h.errors,hn]

theorem fieldNode_blind (i : Nat) (field : String) (sensitive : Bool) (v : Value) :
    Blind (fieldNode i field sensitive v) :=
  .nodeAt_bind fun _ => .bind (.store v) fun _ => .addNode _

/-- The last part of the rules for a field records what it does, but reads no records. -/
theorem settle_blind (σ : Setting) (c : Nat) (path : String) (start : Nat) (current : Value)
    (j : Nat) : Blind (settle σ c path start current j) := by
  have hwrite : ∀ v, Blind (writeBack c path v) := by
    intro v
    refine .get_bind ?_ ?_
    · intro w
      refine .bind ?_ fun _ => .ofExcept _
      rintro w' _ ⟨rs,rfl⟩
      exact .of_exec (exec_modify _ _) (exec_modify _ _) ⟨rs,rfl⟩
    · rintro w _ ⟨rs,rfl⟩
      rfl
  refine .bind (.bind (validate_blind σ j) fun _ => .pure _) fun _ => .get_bind ?_ ?_
  · intro w
    refine .bind (.ofFault _) fun differs => ?_
    split
    · exact .bind (.log _ _) fun _ => hwrite _
    · exact .pure _
  · intro w u h
    have hn : u.node start = w.node start := by
      obtain ⟨rs,rfl⟩ := h
      rfl
    rw [h.result?,h.get,hn]

/-- What runs come to in one world they come to in worlds with other records, if one of them
does not look at records. -/
theorem Parallel.along {w u : World} {x y : Run α} (h : Parallel World.Alike w w x y)
    (hy : Blind y) (hwu : w.Alike u) : Parallel World.Alike w u x y := by
  obtain ⟨hr,hw⟩ := h
  obtain ⟨hr',hw'⟩ := hy w u hwu
  exact ⟨hr.trans hr',hw.trans hw'⟩

/-- Two runs come to the same in every world: to the same result or failure, with the
same nodes, checks, values and messages asked for. Only records may differ. -/
def Same (x y : Run α) : Prop := ∀ w : World, Parallel World.Alike w w x y

namespace Same

theorem of_eq {x y : Run α} (hy : Blind y) (h : x = y) : Same x y := by
  intro w
  rw [h]
  exact hy w w (.refl w)

theorem symm {x y : Run α} (h : Same x y) : Same y x := by
  intro w
  obtain ⟨hr,hw⟩ := h w
  exact ⟨hr.symm,hw.symm⟩

theorem trans {x y z : Run α} (h : Same x y) (h' : Same y z) : Same x z := by
  intro w
  obtain ⟨hr,hw⟩ := h w
  obtain ⟨hr',hw'⟩ := h' w
  exact ⟨hr.trans hr',hw.trans hw'⟩

/-- The later runs start in worlds with other records, so one of each pair has to be
blind. -/
theorem bind {x y : Run α} {f g : α → Run β} (hx : Same x y) (hf : ∀ a, Same (f a) (g a))
    (hg : ∀ a, Blind (g a)) : Same (x >>= f) (y >>= g) := by
  intro w
  exact .bind (hx w) fun a v v' _ _ hv => (hf a v).along (hg a) hv

end Same

/-- What does the same as a run that does not look at records does not look at them either. -/
theorem Blind.of_same {x y : Run α} (h : Same x y) (hy : Blind y) : Blind x := by
  intro w u hwu
  obtain ⟨hr,hw⟩ := h w
  obtain ⟨hr',hw'⟩ := hy w u hwu
  obtain ⟨hr'',hw''⟩ := h.symm u
  exact ⟨hr.trans (hr'.trans hr''),hw.trans (hw'.trans hw'')⟩

/-- An expression does what its alternatives do. -/
theorem rules_same (σ : Setting) (i : Nat) (source : String) :
    Same (rules σ i source) (applyAlternatives σ i (Expression.parse source.toList)) := by
  intro w
  cases hx : (applyAlternatives σ i (Expression.parse source.toList)).exec w with
  | mk r u =>
      cases r with
      | error e => exact .of_exec (exec_bind_of_error hx _) hx (.refl u)
      | ok j =>
          have he : (rules σ i source).exec w = (.ok j,_) := exec_bind_of_ok hx _
          exact .of_exec he hx ⟨u.records,rfl⟩

theorem rules_blind (σ : Setting) (i : Nat) (source : String) : Blind (rules σ i source) :=
  .of_same (rules_same σ i source) (applyAlternatives_blind σ i _)

theorem applyExpressions_blind (σ : Setting) (i : Nat) (es : List String) :
    Blind (applyExpressions σ i es) := by
  induction es generalizing i with
  | nil => exact .pure i
  | cons e rest ih =>
      refine .bind (rules_blind σ i e) fun j => ?_
      split
      · exact .pure j
      · exact .bind (fork_blind j) ih

/-- Further alternatives are run as alternatives to the earlier ones. -/
theorem applyAlternatives_append (σ : Setting) (i : Nat) {as bs : List Alternative}
    (ha : as ≠ []) (hb : bs ≠ []) :
    applyAlternatives σ i (as ++ bs) = (do
      let j ← applyAlternatives σ i as
      let k ← fork j
      applyAlternatives σ k bs) := by
  induction as generalizing i with
  | nil => exact absurd rfl ha
  | cons a rest ih =>
      cases rest with
      | nil =>
          cases bs with
          | nil => exact absurd rfl hb
          | cons b more => simp [applyAlternatives]
      | cons next more =>
          have hc : ∀ l, applyAlternatives σ i (a :: next :: l) = (do
              let j ← a.foldlM (applyStep σ) i
              let k ← fork j
              applyAlternatives σ k (next :: l)) := fun _ => rfl
          rw [List.cons_append,List.cons_append,hc,hc]
          simp only [bind_assoc]
          refine bind_congr fun j => bind_congr fun k => ?_
          exact ih k (List.cons_ne_nil next more)

/-- Steps can be moved from an alternative to a run of their own if there is none before
it, as it then goes on from the same node. -/
theorem applyAlternatives_cons_append (σ : Setting) (i : Nat) (a b : Alternative)
    (bs : List Alternative) :
    applyAlternatives σ i ((a ++ b) :: bs) = (do
      let j ← applyAlternatives σ i [a]
      applyAlternatives σ j (b :: bs)) := by
  simp [applyAlternatives,List.foldlM_append]

/-- The last alternative of one row of alternatives goes on with the first one of
another. -/
theorem applyAlternatives_join (σ : Setting) (i : Nat) (as : List Alternative)
    (a b : Alternative) (bs : List Alternative) :
    applyAlternatives σ i (as ++ (a ++ b) :: bs) = (do
      let j ← applyAlternatives σ i (as ++ [a])
      applyAlternatives σ j (b :: bs)) := by
  cases as with
  | nil => exact applyAlternatives_cons_append σ i a b bs
  | cons c rest =>
      have ha : c :: rest ≠ [] := List.cons_ne_nil c rest
      rw [applyAlternatives_append σ i ha (List.cons_ne_nil _ bs),
        applyAlternatives_append σ i ha (List.cons_ne_nil a [])]
      simp only [bind_assoc,applyAlternatives_cons_append]

/-- A list of expressions, none of them blank, does what the alternatives of all do. -/
theorem applyExpressions_same (σ : Setting) (i : Nat) (es : List String)
    (h : ∀ e ∈ es, Expression.segments e.toList ≠ []) :
    Same (applyExpressions σ i es)
      (applyAlternatives σ i (es.flatMap fun e => Expression.parse e.toList)) := by
  induction es generalizing i with
  | nil => exact .of_eq (.pure i) rfl
  | cons e rest ih =>
      obtain ⟨he,hrest⟩ := List.forall_mem_cons.mp h
      cases rest with
      | nil =>
          rw [List.flatMap_cons,List.flatMap_nil,List.append_nil]
          have hx : applyExpressions σ i [e] = rules σ i e := by simp [applyExpressions]
          rw [hx]
          exact rules_same σ i e
      | cons next more =>
          have hp : Expression.parse e.toList ≠ [] := mt Expression.parse_eq_nil_iff.mp he
          have hn : Expression.parse next.toList ≠ [] :=
            mt Expression.parse_eq_nil_iff.mp (hrest next List.mem_cons_self)
          have hm : (next :: more).flatMap (fun e => Expression.parse e.toList) ≠ [] := by
            simp [List.flatMap_cons,hn]
          rw [List.flatMap_cons,applyAlternatives_append σ i hp hm]
          refine .bind (rules_same σ i e) (fun j => ?_) fun j =>
            .bind (fork_blind j) fun k => applyAlternatives_blind σ k _
          exact .bind (.of_eq (fork_blind j) rfl) (fun k => ih k hrest) fun k =>
            applyAlternatives_blind σ k _

theorem expressionsOf_items {fieldRules : Value} {es : List String}
    (h : fieldRules.items? = some (es.map .text)) : expressionsOf fieldRules = .ok es := by
  have hm : ∀ es : List String, (es.map Value.text).mapM Value.display = .ok es := by
    intro es
    induction es with
    | nil => rfl
    | cons e rest ih =>
        rw [List.map_cons,List.mapM_cons,ih]
        rfl
  rw [expressionsOf,h]
  exact hm es

/-- The chain for a field with a value, and what the field's rules make of it. -/
def fieldChain (σ : Setting) (i : Nat) (path : String) (sensitive : Bool) (v : Value)
    (fieldRules : Value) : Run Nat := do
  let start ← fieldNode i path sensitive v
  applyExpressions σ start (← ofFault (expressionsOf fieldRules))

section
variable {fieldRules other : Value} {es fs : List String}

theorem fieldChain_same (he : expressionsOf fieldRules = .ok es)
    (hf : expressionsOf other = .ok fs)
    (hs : ∀ k, Same (applyExpressions σ k es) (applyExpressions σ k fs)) (path : String)
    (sensitive : Bool) (v : Value) :
    Same (fieldChain σ i path sensitive v fieldRules) (fieldChain σ i path sensitive v other) := by
  intro w
  obtain ⟨u,hx,-⟩ := exec_fieldNode w i path sensitive v
  exact .of_bind hx hx (.of_bind (exec_ofFault_ok he) (exec_ofFault_ok hf) (hs _ u))

/-- Rules for a field that come to the same expressions, or to ones that do the same, do
the same for the field. -/
theorem applyField_same (he : expressionsOf fieldRules = .ok es)
    (hf : expressionsOf other = .ok fs)
    (hs : ∀ k, Same (applyExpressions σ k es) (applyExpressions σ k fs)) (field : String) :
    Same (applyField σ i field fieldRules) (applyField σ i field other) := by
  intro w
  cases hsf : splitField field with
  | mk path sensitive =>
  unfold applyField
  rw [hsf]
  refine .nodeAt_bind (.get_bind ?_)
  cases Path.read path (w.cell (w.node i).value) .null with
  | error f =>
      have hx : (ofFault (.error f) : Run Value).exec w = (.error (.fault f),w) :=
        exec_ofFault_error rfl
      exact .of_exec (exec_bind_of_error hx _) (exec_bind_of_error hx _) (.refl w)
  | ok current =>
      have hx : (ofFault (.ok current)).exec w = (.ok current,w) := exec_ofFault_ok rfl
      obtain ⟨u,hn,-⟩ := exec_fieldNode w i path sensitive current
      refine .of_bind hx hx (.of_bind hn hn ?_)
      refine .of_bind (exec_ofFault_ok he) (exec_ofFault_ok hf) ?_
      exact .bind (hs _ u) fun j v v' _ _ hv => settle_blind σ _ path _ current j v v' hv

end

/-- A list of expressions, none of them blank, does what they do with bars between them. -/
theorem applyExpressions_joined (σ : Setting) (i : Nat) (es : List String)
    (hes : ∀ e ∈ es, Expression.segments e.toList ≠ []) :
    Same (applyExpressions σ i es) (applyExpressions σ i ["|".intercalate es]) := by
  have hparse : Expression.parse ("|".intercalate es).toList =
      es.flatMap fun e => Expression.parse e.toList := by
    have hjoin : ("|".intercalate es).toList = Text.join '|' (es.map String.toList) := by
      rw [String.toList_intercalate,Text.join_eq_intercalate]
      rfl
    rw [hjoin,Expression.parse_join,List.flatMap_map]
  have hone : applyExpressions σ i ["|".intercalate es] = rules σ i ("|".intercalate es) := by
    simp [applyExpressions]
  have hrules := rules_same σ i ("|".intercalate es)
  rw [hparse] at hrules
  rw [hone]
  exact (applyExpressions_same σ i es hes).trans hrules.symm

/-- Expressions that are put together do what they do one after the other. With a bar, the
second one is an alternative to what the first one leaves, and a blank one counts for
nothing; with a semicolon, the second one goes on from what the first one leaves, unless
the segments that meet are blank. A list of expressions for a field, none of them blank,
does what one expression with bars between them does. Any registry will do, as its rules give
a verdict or a new value. -/
theorem rules_compose (σ : Setting) (i : Nat) (e₁ e₂ : String) :
    (Expression.segments e₁.toList ≠ [] → Expression.segments e₂.toList ≠ [] →
      Same (rules σ i (e₁ ++ "|" ++ e₂)) (do
        let j ← rules σ i e₁
        let k ← fork j
        rules σ k e₂)) ∧
    (Expression.segments e₁.toList ≠ [] → Expression.segments e₂.toList = [] →
      Same (rules σ i (e₁ ++ "|" ++ e₂)) (rules σ i e₁)) ∧
    (Expression.segments e₁.toList = [] → Expression.segments e₂.toList ≠ [] →
      Same (rules σ i (e₁ ++ "|" ++ e₂)) (rules σ i e₂)) ∧
    (isBlankText (Expression.lastSegment e₁.toList) = false →
      isBlankText (Expression.firstSegment e₂.toList) = false →
      Same (rules σ i (e₁ ++ ";" ++ e₂)) (do
        let j ← rules σ i e₁
        rules σ j e₂)) ∧
    ∀ es : List String, (∀ e ∈ es, Expression.segments e.toList ≠ []) →
      ∀ fieldRules, fieldRules.items? = some (es.map .text) →
        (∀ path sensitive v, Same (fieldChain σ i path sensitive v fieldRules)
          (fieldChain σ i path sensitive v (.text ("|".intercalate es)))) ∧
        ∀ field, Same (applyField σ i field fieldRules)
          (applyField σ i field (.text ("|".intercalate es))) := by
  have hbar : Expression.parse (e₁ ++ "|" ++ e₂).toList =
      Expression.parse e₁.toList ++ Expression.parse e₂.toList := by
    rw [← Expression.parse_append_bar]
    simp
  refine ⟨?_,?_,?_,?_,?_⟩
  · intro h₁ h₂
    refine (rules_same σ i _).trans (.symm ?_)
    rw [hbar,applyAlternatives_append σ i (mt Expression.parse_eq_nil_iff.mp h₁)
      (mt Expression.parse_eq_nil_iff.mp h₂)]
    refine .bind (rules_same σ i e₁) (fun j => ?_) fun j =>
      .bind (fork_blind j) fun k => applyAlternatives_blind σ k _
    exact .bind (.of_eq (fork_blind j) rfl) (fun k => rules_same σ k e₂) fun k =>
      applyAlternatives_blind σ k _
  · intro _ h₂
    refine (rules_same σ i _).trans (.symm ?_)
    rw [hbar,Expression.parse_eq_nil_iff.mpr h₂,List.append_nil]
    exact rules_same σ i e₁
  · intro h₁ _
    refine (rules_same σ i _).trans (.symm ?_)
    rw [hbar,Expression.parse_eq_nil_iff.mpr h₁,List.nil_append]
    exact rules_same σ i e₂
  · intro h₁ h₂
    obtain ⟨as,a,b,bs,ha,hb,hab⟩ := Expression.parse_append_semicolon h₁ h₂
    have hsemi : Expression.parse (e₁ ++ ";" ++ e₂).toList = as ++ (a ++ b) :: bs := by
      rw [← hab]
      simp
    refine (rules_same σ i _).trans (.symm ?_)
    rw [hsemi,applyAlternatives_join,← ha,← hb]
    exact .bind (rules_same σ i e₁) (fun j => rules_same σ j e₂) fun j =>
      applyAlternatives_blind σ j _
  · intro es hes fieldRules hitems
    have he := expressionsOf_items hitems
    have hf : expressionsOf (.text ("|".intercalate es)) = .ok ["|".intercalate es] := rfl
    have hs := fun k => applyExpressions_joined σ k es hes
    exact ⟨fieldChain_same he hf hs,applyField_same he hf hs⟩

/-- A text that is trimmed or null, and two expressions for a name. -/
theorem rules_compose_trimmed :
    let σ : Setting := ⟨Rules.standard .none,.standard,false⟩
    let names := ["req;asTrim","null"]
    Expression.segments "asTrim".toList ≠ [] ∧ Expression.segments "null".toList ≠ [] ∧
      Same (rules σ 0 ("asTrim" ++ "|" ++ "null")) (do
        let j ← rules σ 0 "asTrim"
        let k ← fork j
        rules σ k "null") ∧
      Same (rules σ 0 ("asTrim" ++ ";" ++ "null")) (do
        let j ← rules σ 0 "asTrim"
        rules σ j "null") ∧
      Same (applyField σ 0 "#name" (.list (names.map .text)))
        (applyField σ 0 "#name" (.text ("|".intercalate names))) := by
  intro σ names
  have hs : Expression.segments "asTrim".toList ≠ [] := by decide
  have ht : Expression.segments "null".toList ≠ [] := by decide
  have hn : ∀ e ∈ names, Expression.segments e.toList ≠ [] := by decide
  obtain ⟨hbar,-,-,hsemi,hlist⟩ := rules_compose σ 0 "asTrim" "null"
  exact ⟨hs,ht,hbar hs ht,hsemi (by decide) (by decide),(hlist names hn _ rfl).2 "#name"⟩

end Run

end Vetting
