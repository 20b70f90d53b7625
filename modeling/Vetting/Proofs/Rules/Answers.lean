import Vetting.Proofs.Rules.Binding
import Vetting.Proofs.Rules.Comparison
import Vetting.Proofs.Rules.Contract

/-!
# When comparisons have no answer

The rules that compare come to a verdict on whatever they are given, as long as no comparison on
the way to it fails. What a rule compares, and so what it can fail on, depends on the rule: one
value, a second one if the first comparison holds, or one choice after the other until one is
found; and the choices have to be written for the message of a membership rule.
-/
namespace Vetting
variable {mail : Rules.MailReader}

namespace Value
variable {v : Value}

/-- A value that can be a key is a value as it can be built. -/
theorem wellFormed_of_isHashable (h : v.isHashable = true) : v.WellFormed := by
  induction v using parts_induction with
  | scalar v hs => exact .scalar hs
  | tuple xs ih =>
      rw [isHashable,hashableItems_iff] at h
      exact .tuple fun x hx => ih x hx (h x hx)
  | list xs => cases h
  | set xs => cases h
  | dict es => cases h

theorem wellFormed_of_members? {xs : List Value} (hv : v.WellFormed) (h : v.members? = some xs) :
    ∀ x ∈ xs, x.WellFormed := by
  cases v with
  | list ys =>
      cases h
      exact hv.items (Or.inl rfl)
  | tuple ys =>
      cases h
      exact hv.items (Or.inr rfl)
  | set ys =>
      cases h
      exact fun x hx => wellFormed_of_isHashable (hv.members x hx)
  | _ => cases h

end Value

namespace Rules

theorem wellFormed_of_choicesOf {cs : List Value} (h : ∀ x ∈ cs, x.WellFormed) :
    ∀ x ∈ choicesOf cs, x.WellFormed := by
  match cs with
  | [] => exact h
  | [c] =>
      rw [choicesOf]
      cases hc : c.members? with
      | none => exact h
      | some xs => exact Value.wellFormed_of_members? (h c List.mem_cons_self) hc
  | _ :: _ :: _ => exact h

/-! ## Questions -/

/-- What can be asked of a value in a comparison. -/
inductive Question where
  | equal (strict : Bool) (x : Value)
  | ordered (accepted : List Int) (x : Value)
  | between (x y : Value)
  | member (strict : Bool) (cs : List Value)

namespace Question

def answer (v : Value) : Question → Except Fault Bool
  | .equal strict x => if strict then identical v x else v.looseEqual x
  | .ordered accepted x => stands v x accepted
  | .between x y => isBetween v x y
  | .member strict cs => do
      let found ← isOneOf strict v cs
      let _ ← listed cs
      .ok found

/-- The values that are asked about. -/
def values : Question → List Value
  | .equal _ x => [x]
  | .ordered _ x => [x]
  | .between x y => [x,y]
  | .member _ cs => cs

/-- The equality of two values fails. -/
def Unequatable (strict : Bool) (v x : Value) : Prop :=
  if strict then v.kind = x.kind ∧ v.Falters x else v.FaltersLoosely x

/-- A comparison that it takes to answer fails, or a choice cannot be written. -/
def Unanswered (v : Value) : Question → Prop
  | .equal strict x => Unequatable strict v x
  | .ordered _ x => v.BreaksLoosely x
  | .between x y => v.BreaksLoosely x ∨ stands v x [0,1] = .ok true ∧ v.BreaksLoosely y
  | .member strict cs =>
      (∃ before c after, cs = before ++ c :: after ∧
        (∀ d ∈ before, (Question.equal strict d).answer v = .ok false) ∧ Unequatable strict v c) ∨
      ∃ c ∈ cs, ∃ f, c.toText = .error f

section
variable {v x y : Value} {cs : List Value} {strict : Bool} {accepted : List Int}

theorem exists_equal_iff (hv : v.WellFormed) (hx : x.WellFormed) :
    (∃ b, (Question.equal strict x).answer v = .ok b) ↔ ¬ Unequatable strict v x := by
  cases strict with
  | false => exact Value.exists_looseEqual_iff hv hx
  | true =>
      simp only [answer,Unequatable,if_true,identical]
      by_cases hkind : v.kind = x.kind
      · simpa only [hkind,if_true,true_and] using Value.exists_equal_iff hv hx
      · simp [hkind]

theorem exists_ordered_iff (hv : v.WellFormed) (hx : x.WellFormed) :
    (∃ b, stands v x accepted = .ok b) ↔ ¬ v.BreaksLoosely x := by
  rw [← Value.exists_looseCompare_iff hv hx,stands]
  rcases v.looseCompare x with f | _ | o <;> simp [Bind.bind,Except.bind]

theorem exists_between_iff (hv : v.WellFormed) (hx : x.WellFormed) (hy : y.WellFormed) :
    (∃ b, isBetween v x y = .ok b) ↔
      ¬ (v.BreaksLoosely x ∨ stands v x [0,1] = .ok true ∧ v.BreaksLoosely y) := by
  have hlower : (∃ b, stands v x [0,1] = .ok b) ↔ _ := exists_ordered_iff hv hx
  have hupper : (∃ b, stands v y [-1,0] = .ok b) ↔ _ := exists_ordered_iff hv hy
  rw [isBetween,not_or,← hlower,not_and,← hupper]
  rcases stands v x [0,1] with f | _ | _ <;> simp [Bind.bind,Except.bind]

/-- A search fails at the first member that its test fails on, unless one before it is found. -/
theorem exists_holdsOfOne_iff {test : Value → Except Fault Bool} :
    (∃ b, Value.holdsOfOne test cs = .ok b) ↔
      ¬ ∃ before c after, cs = before ++ c :: after ∧ (∀ d ∈ before, test d = .ok false) ∧
        ∃ f, test c = .error f := by
  induction cs with
  | nil => simp [Value.holdsOfOne]
  | cons c cs ih =>
      simp only [List.cons_eq_append_iff]
      cases hc : test c with
      | error f =>
          have hfail : ∃ before d after, (before = [] ∧ d :: after = c :: cs ∨
              ∃ bs, before = c :: bs ∧ cs = bs ++ d :: after) ∧
              (∀ d ∈ before, test d = .ok false) ∧ ∃ f, test d = .error f :=
            ⟨[],c,cs,Or.inl ⟨rfl,rfl⟩,by simp,f,hc⟩
          simp only [Value.holdsOfOne,hc,hfail,not_true]
          simp [Bind.bind,Except.bind]
      | ok b =>
          cases b with
          | true =>
              refine iff_of_true ⟨true,by rw [Value.holdsOfOne,hc]; rfl⟩ ?_
              rintro ⟨before,d,after,⟨rfl,h⟩ | ⟨bs,rfl,-⟩,hbefore,f,hf⟩
              · cases h
                rw [hc] at hf
                cases hf
              · rw [hbefore c List.mem_cons_self] at hc
                cases hc
          | false =>
              have hrest : Value.holdsOfOne test (c :: cs) = Value.holdsOfOne test cs := by
                rw [Value.holdsOfOne,hc]
                rfl
              rw [hrest,ih]
              refine not_congr ⟨?_,?_⟩
              · rintro ⟨before,d,after,rfl,hbefore,hf⟩
                exact ⟨c :: before,d,after,Or.inr ⟨before,rfl,rfl⟩,
                  List.forall_mem_cons.mpr ⟨hc,hbefore⟩,hf⟩
              · rintro ⟨before,d,after,⟨rfl,h⟩ | ⟨bs,rfl,hcs⟩,hbefore,f,hf⟩
                · cases h
                  rw [hc] at hf
                  cases hf
                · exact ⟨bs,d,after,hcs,(List.forall_mem_cons.mp hbefore).2,f,hf⟩

theorem exists_listed_iff : (∃ t, listed cs = .ok t) ↔ ¬ ∃ c ∈ cs, ∃ f, c.toText = .error f := by
  have hmap {x : Except Fault (List String)} :
      (∃ t, x.map commaJoin = .ok t) ↔ ∃ ts, x = .ok ts := by
    cases x <;> simp [Except.map]
  rw [listed,hmap]
  induction cs with
  | nil => simp [pure,Except.pure]
  | cons c cs ih =>
      rw [List.mapM_cons]
      cases hc : c.toText with
      | error f =>
          refine iff_of_false (by simp [Bind.bind,Except.bind]) ?_
          exact fun h => h ⟨c,List.mem_cons_self,f,hc⟩
      | ok t =>
          have htail : (∃ d ∈ c :: cs, ∃ f, d.toText = .error f) ↔
              ∃ d ∈ cs, ∃ f, d.toText = .error f := by
            simp [hc]
          refine Iff.trans ?_ (ih.trans (not_congr htail.symm))
          cases cs.mapM Value.toText <;> simp [Bind.bind,Except.bind,pure,Except.pure]

/-- A question has an answer exactly if no comparison on the way fails. -/
theorem exists_answer_iff {q : Question} (hv : v.WellFormed) (hq : ∀ x ∈ q.values, x.WellFormed) :
    (∃ b, q.answer v = .ok b) ↔ ¬ q.Unanswered v := by
  cases q with
  | equal strict x => exact exists_equal_iff hv (hq x (by simp [values]))
  | ordered accepted x => exact exists_ordered_iff hv (hq x (by simp [values]))
  | between x y =>
      exact exists_between_iff hv (hq x (by simp [values])) (hq y (by simp [values]))
  | member strict cs =>
      have htest (c : Value) (hc : c ∈ cs) :
          (∃ f, (Question.equal strict c).answer v = .error f) ↔ Unequatable strict v c := by
        have h : (∃ b, (Question.equal strict c).answer v = .ok b) ↔ _ :=
          exists_equal_iff hv (hq c hc)
        cases ha : (Question.equal strict c).answer v with
        | error f => simpa [ha] using h
        | ok b => simpa [ha] using h
      have hsearch : isOneOf strict v cs =
          Value.holdsOfOne (fun c => (Question.equal strict c).answer v) cs := by
        cases strict <;> rfl
      have hboth : (∃ b, (Question.member strict cs).answer v = .ok b) ↔
          (∃ b, isOneOf strict v cs = .ok b) ∧ ∃ t, listed cs = .ok t := by
        rw [answer]
        cases isOneOf strict v cs with
        | error f => simp [Bind.bind,Except.bind]
        | ok b => cases listed cs <;> simp [Bind.bind,Except.bind]
      rw [hboth,exists_listed_iff,hsearch,exists_holdsOfOne_iff,Unanswered,not_or]
      refine and_congr_left fun _ => not_congr ?_
      refine exists_congr fun before => exists_congr fun c => exists_congr fun after => ?_
      refine and_congr_right fun hcs => and_congr_right fun _ => htest c ?_
      simp [hcs]

/-- Operands that cannot be compared. -/
def Incomparable (v : Value) : Question → Prop
  | .ordered _ x => v.looseCompare x = .ok none
  | .between x y => v.looseCompare x = .ok none ∨ v.looseCompare y = .ok none
  | _ => False

theorem answer_of_incomparable {q : Question} {b : Bool} (h : q.Incomparable v)
    (hb : q.answer v = .ok b) : b = false := by
  have hstands {x : Value} {accepted : List Int} (hx : v.looseCompare x = .ok none) :
      stands v x accepted = .ok false := by
    rw [stands,hx]
    rfl
  cases q with
  | ordered accepted x =>
      rw [answer,hstands h] at hb
      exact (Except.ok.inj hb).symm
  | between x y =>
      rw [answer,isBetween] at hb
      rcases h with hx | hy
      · rw [hstands hx] at hb
        exact (Except.ok.inj hb).symm
      · cases hlower : stands v x [0,1] with
        | error f => simp [hlower,Bind.bind,Except.bind] at hb
        | ok c => cases c <;> simp_all [Bind.bind,Except.bind]
  | equal => cases h
  | member => cases h

end

end Question

/-! ## Rules -/

/-- The rules that compare a value with their arguments. -/
inductive Comparison where
  | eq | seq | gt | gte | lt | lte | between | isIn

namespace Comparison

def name : Comparison → String
  | .eq => "eq"
  | .seq => "seq"
  | .gt => "gt"
  | .gte => "gte"
  | .lt => "lt"
  | .lte => "lte"
  | .between => "between"
  | .isIn => "in"

def rule : Comparison → Rule
  | .eq => Rules.eq
  | .seq => Rules.seq
  | .gt => Rules.gt
  | .gte => Rules.gte
  | .lt => Rules.lt
  | .lte => Rules.lte
  | .between => Rules.between
  | .isIn => Rules.isIn

theorem get?_name (k : Comparison) : (standard mail).get? k.name = some k.rule :=
  get?_of_listed (by cases k <;> simp [name,rule,transformers,validators])

/-- What a rule asks with the arguments that are bound. -/
def question? (b : Bound) : Comparison → Option Question
  | .eq => single? (.equal false)
  | .seq => single? (.equal true)
  | .gt => single? (.ordered [1])
  | .gte => single? (.ordered [0,1])
  | .lt => single? (.ordered [-1])
  | .lte => single? (.ordered [-1,0])
  | .between => match b.given with
    | [x,y,_] => some (.between x y)
    | _ => none
  | .isIn => match b.named with
    | [strict] => some (.member strict.toBool (choicesOf b.rest))
    | _ => none
where
  single? (ask : Value → Question) : Option Question :=
    match b.given with
    | [x,_] => some (ask x)
    | _ => none

/-- A call asks a question: its arguments are bound to that effect. -/
def Asks (k : Comparison) (args : List Value) (byName : Named Value) (q : Question) : Prop :=
  ∃ b, k.rule.signature.bind args byName = .ok b ∧ k.question? b = some q

section
variable {k : Comparison} {args : List Value} {byName : Named Value} {b : Bound} {q : Question}

/-- Every call with arguments that can be bound asks a question. -/
theorem exists_asks (h : k.rule.signature.bind args byName = .ok b) :
    ∃ q, k.Asks args byName q := by
  obtain ⟨hgiven,-,hnamed⟩ := Signature.bindAll_of_bind h
  replace hgiven := Signature.length_of_bindAll hgiven
  replace hnamed := Signature.length_of_bindAll hnamed
  have hsingle {ask : Value → Question} (hlen : b.given.length = 2) :
      ∃ q, question?.single? b ask = some q := by
    obtain ⟨x,m,hxm⟩ := List.length_eq_two.mp hlen
    exact ⟨ask x,by rw [question?.single?,hxm]⟩
  have hq : ∃ q, k.question? b = some q := by
    cases k with
    | between =>
        obtain ⟨x,y,m,hxy⟩ := List.length_eq_three.mp hgiven
        exact ⟨.between x y,by rw [question?,hxy]⟩
    | isIn =>
        obtain ⟨s,hs⟩ := List.length_eq_one_iff.mp hnamed
        exact ⟨.member s.toBool (choicesOf b.rest),by rw [question?,hs]⟩
    | _ => exact hsingle hgiven
  obtain ⟨q,hq⟩ := hq
  exact ⟨q,b,h,hq⟩

theorem wellFormed_of_default {p : Parameter} {x : Value} (hp : p ∈ k.rule.signature.parameters)
    (hx : x ∈ p.default) : x.WellFormed := by
  have hplain : ∀ p ∈ k.rule.signature.parameters, ∀ x ∈ p.default, x.isScalar = true := by
    cases k <;> decide
  exact .scalar (hplain p hp x hx)

/-- The values that a call asks about are arguments of it or members of one. -/
theorem Asks.wellFormed (h : k.Asks args byName q) (hargs : ∀ x ∈ args, x.WellFormed)
    (hnamed : ∀ a ∈ byName, a.2.WellFormed) : ∀ x ∈ q.values, x.WellFormed := by
  obtain ⟨b,hb,hq⟩ := h
  obtain ⟨hgiven,hrest,-⟩ := Signature.bindAll_of_bind hb
  have hbound : ∀ x ∈ b.given, x.WellFormed :=
    Signature.bindAll_induction hargs hnamed (fun _ hp _ => wellFormed_of_default hp) hgiven
  have hsingle {ask : Value → Question} (hask : ∀ x, (ask x).values = [x])
      (hq : question?.single? b ask = some q) : ∀ x ∈ q.values, x.WellFormed := by
    rw [question?.single?] at hq
    split at hq
    · rename_i x m hxm
      cases hq
      rw [hask,List.forall_mem_singleton]
      exact hbound x (by simp [hxm])
    · cases hq
  cases k with
  | between =>
      rw [question?] at hq
      split at hq
      · rename_i x y m hxy
        cases hq
        exact fun z hz => hbound z (by rw [hxy]; exact List.mem_append_left [m] hz)
      · cases hq
  | isIn =>
      rw [question?] at hq
      split at hq
      · cases hq
        refine wellFormed_of_choicesOf fun x hx => hargs x ?_
        rw [hrest] at hx
        exact List.mem_of_mem_drop hx
      · cases hq
  | _ => exact hsingle (fun _ => rfl) hq

/-- A verdict under a name that an answer gives, or the fault for want of one. -/
def Delivers (name : String) (c : Except Fault Bool) (r : Except Failure Outcome) : Prop :=
  (∀ f, c = .error f → r = .error (.fault f)) ∧
    ∀ p, c = .ok p → ∃ message fields, r = .ok (.verdict p message name fields)

theorem delivers_orFail {c : Except Fault Bool} {message : Value} {name : String}
    {fields : Named Value} :
    Delivers name c (orFail c >>= fun p => .ok (.verdict p message name fields)) := by
  cases c with
  | error f =>
      refine ⟨?_,nofun⟩
      rintro _ ⟨⟩
      rfl
  | ok p =>
      refine ⟨nofun,?_⟩
      rintro _ ⟨⟩
      exact ⟨message,fields,rfl⟩

theorem question?_delivers (v : Value) (h : k.question? b = some q) :
    Delivers k.name (q.answer v) (k.rule.run v b) := by
  obtain ⟨given,rest,named⟩ := b
  -- The rules with one operand differ in what they ask of it only.
  have hsingle {ask : Value → Question} {r : Rule}
      (hr : ∀ x m, r.run v ⟨[x,m],rest,named⟩ = orFail ((ask x).answer v) >>= fun p =>
        .ok (.verdict p m k.name [("x",x)]))
      (hq : question?.single? ⟨given,rest,named⟩ ask = some q) :
      Delivers k.name (q.answer v) (r.run v ⟨given,rest,named⟩) := by
    rw [question?.single?] at hq
    split at hq
    · rename_i x m hgiven
      cases hgiven
      cases hq
      rw [hr]
      exact delivers_orFail
    · cases hq
  cases k with
  | between =>
      rw [question?] at h
      split at h
      · rename_i x y m hgiven
        cases hgiven
        cases h
        exact delivers_orFail
      · cases h
  | isIn =>
      rw [question?] at h
      split at h
      · rename_i s hnamed
        cases hnamed
        cases h
        simp only [rule,Rules.isIn,Question.answer,name]
        cases isOneOf s.toBool v (choicesOf rest) with
        | error f => exact ⟨fun _ h => by cases h; rfl,nofun⟩
        | ok found =>
            cases listed (choicesOf rest) with
            | error f => exact ⟨fun _ h => by cases h; rfl,nofun⟩
            | ok t => exact ⟨nofun,fun _ h => by cases h; exact ⟨_,_,rfl⟩⟩
      · cases h
  | _ => exact hsingle (fun _ _ => rfl) h

theorem Asks.delivers (h : k.Asks args byName q) (v : Value) :
    Delivers k.name (q.answer v) (k.rule.call v args byName) := by
  obtain ⟨b,hb,hq⟩ := h
  rw [Rule.call,hb]
  exact question?_delivers v hq

end

end Comparison

end Rules

end Vetting
