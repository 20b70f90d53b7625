import Vetting.Rules.Standard

/-!
# What rules say of a value

When a rule finds fault with a value, what it says, namely the message given for it, the
rule it names and the named values it brings along, comes from its arguments alone: the
value decides only whether the rule is satisfied. What it brings along goes by the names
of its bounds, so that it never covers what a chain says of itself. Both hold of every
standard rule, one lemma for each family of rules.
-/
namespace Vetting
variable {mail : Rules.MailReader}

/-- What a rule has to say when it is not satisfied, and whether it judges values or
makes new ones. -/
structure Remark where
  message : Value
  rule : String
  fields : Named Value
  judges : Bool

/-- Named values that go by the names of bounds. -/
def PlainFields (fields : Named Value) : Prop := ∀ f ∈ fields, f.1 = "x" ∨ f.1 = "y"

namespace PlainFields

theorem nil : PlainFields [] := by
  intro f hf
  cases hf

theorem x (v : Value) : PlainFields [("x",v)] := by
  simp [PlainFields]

theorem xy (v u : Value) : PlainFields [("x",v),("y",u)] := by
  simp [PlainFields]

/-- They cover nothing that goes by another name. -/
theorem get?_overlay {fields : Named Value} (h : PlainFields fields) {name : String}
    (hx : name ≠ "x") (hy : name ≠ "y") (base : Named Value) :
    Named.get? name (Named.overlay base fields) = Named.get? name base := by
  refine Named.get?_overlay_of_forall_ne ?_ base
  intro f hf he
  rcases h f hf with h | h
  · exact hx (he.symm.trans h)
  · exact hy (he.symm.trans h)

end PlainFields

/-- An outcome, or a refusal, says nothing but what was expected. Faults are left aside. -/
def Echoes (e : Except Failure Remark) : Except Failure Outcome → Prop
  | .error f => (∃ g, f = .fault g) ∨ e = .error f
  | .ok (.verdict passed message rule fields) =>
      ∃ judges, e = .ok ⟨message,rule,fields,judges⟩ ∧ (passed = true → judges = true)
  | .ok (.replaced _) => ∃ s : Remark, e = .ok s ∧ s.judges = false

/-- A rule that makes new values never finds a value good as it is. -/
theorem Echoes.not_replaced {e : Except Failure Remark} {message : Value} {rule : String}
    {fields : Named Value} {v : Value}
    (h : Echoes e (.ok (.verdict true message rule fields))) :
    ¬ Echoes e (.ok (.replaced v)) := by
  obtain ⟨judges,he,hj⟩ := h
  rintro ⟨s,hs,hjudges⟩
  rw [he] at hs
  cases hs
  rw [hj rfl] at hjudges
  cases hjudges

/-- Whether an outcome is a success. A refusal is neither that nor the contrary. -/
def success? : Except Failure Outcome → Option Bool
  | .ok (.verdict passed _ _ _) => some passed
  | .ok (.replaced _) => some true
  | .error _ => none

/-- Computations on different inputs that all say the same. -/
def Discreet {ι : Type} (f : ι → Except Failure Outcome) : Prop :=
  ∃ e : Except Failure Remark, (∀ s, e = .ok s → PlainFields s.fields) ∧
    ∀ i, Echoes e (f i)

namespace Discreet
variable {ι α : Type}

theorem of_echoes {f : ι → Except Failure Outcome} {s : Remark}
    (hs : PlainFields s.fields) (h : ∀ i, Echoes (.ok s) (f i)) : Discreet f := by
  refine ⟨.ok s,?_,h⟩
  rintro t ⟨⟩
  exact hs

theorem error (f : Failure) : Discreet fun _ : ι => .error f := by
  refine ⟨.error f,?_,?_⟩
  · exact fun s h => nomatch h
  · exact fun _ => Or.inr rfl

/-- A call that cannot be bound is a fault whatever the value. -/
theorem unbound : Discreet fun _ : ι => (misbound : Except Failure Outcome) :=
  error _

/-- Verdicts that share what they say. -/
theorem verdict {message : Value} {rule : String} {fields : Named Value}
    (h : PlainFields fields) (passes : ι → Bool) :
    Discreet fun i => .ok (.verdict (passes i) message rule fields) :=
  of_echoes (s := ⟨message,rule,fields,true⟩) h fun _ => ⟨true,rfl,fun _ => rfl⟩

theorem replaced (f : ι → Value) : Discreet fun i => .ok (.replaced (f i)) :=
  of_echoes (s := ⟨.null,"",[],false⟩) .nil fun _ => ⟨_,rfl,rfl⟩

/-- A new value is made from what has been read, or else the rule fails under its name. -/
theorem replacedOrFailed (name : String) {f : ι → Except Failure Outcome}
    (h : ∀ i, (∃ v, f i = .ok (.replaced v)) ∨ f i = .ok (Rules.failedUnder name) ∨
      ∃ e, f i = .error (.fault e)) : Discreet f := by
  refine of_echoes (s := ⟨.null,name,[],false⟩) .nil ?_
  intro i
  rcases h i with ⟨v,hv⟩ | hf | ⟨e,he⟩
  · rw [hv]
    exact ⟨_,rfl,rfl⟩
  · rw [hf]
    exact ⟨false,rfl,fun h => nomatch h⟩
  · rw [he]
    exact Or.inl ⟨e,rfl⟩

/-- What is computed without the input can be shown, whatever comes of it. -/
theorem bind {x : Except Failure α} {f : ι → α → Except Failure Outcome}
    (h : ∀ a, x = .ok a → Discreet fun i => f i a) : Discreet fun i => x >>= f i := by
  cases x with
  | error e => exact error e
  | ok a => exact h a rfl

/-- What is computed from the input may run into a fault, and what comes of it counts as
a further input. -/
theorem orFail_bind {x : ι → Except Fault α} {f : ι → α → Except Failure Outcome}
    (h : Discreet fun p : ι × α => f p.1 p.2) : Discreet fun i => orFail (x i) >>= f i := by
  obtain ⟨e,hp,he⟩ := h
  refine ⟨e,hp,?_⟩
  intro i
  change Echoes e (orFail (x i) >>= f i)
  cases x i with
  | error g => exact Or.inl ⟨g,rfl⟩
  | ok a => exact he (i,a)

/-- The named values of a verdict go by the names of bounds. -/
theorem fields_plain {f : ι → Except Failure Outcome} (h : Discreet f) {i : ι}
    {passed : Bool} {message : Value} {rule : String} {fields : Named Value}
    (hi : f i = .ok (.verdict passed message rule fields)) : PlainFields fields := by
  obtain ⟨e,hp,he⟩ := h
  have hei := he i
  rw [hi] at hei
  obtain ⟨judges,hj,-⟩ := hei
  exact hp _ hj

/-- Where nothing runs into a fault, what is said of two inputs differs in new values at
most, as long as both of them satisfy the rule or neither does. -/
theorem compare {f : ι → Except Failure Outcome} (h : Discreet f) {i j : ι}
    (hi : ∀ g, f i ≠ .error (.fault g)) (hj : ∀ g, f j ≠ .error (.fault g))
    (hs : success? (f i) = success? (f j)) :
    f i = f j ∨ ∃ v u, f i = .ok (.replaced v) ∧ f j = .ok (.replaced u) := by
  obtain ⟨e,-,he⟩ := h
  have hei := he i
  have hej := he j
  generalize f i = a at hi hs hei ⊢
  generalize f j = b at hj hs hej ⊢
  match a,b with
  | .error f,.error g =>
      have hf := hei.resolve_left (by rintro ⟨k,rfl⟩; exact hi k rfl)
      have hg := hej.resolve_left (by rintro ⟨k,rfl⟩; exact hj k rfl)
      rw [hf] at hg
      cases hg
      exact Or.inl rfl
  | .ok (.verdict p m r fs),.ok (.verdict p' m' r' fs') =>
      obtain ⟨k,hk,-⟩ := hei
      obtain ⟨k',hk',-⟩ := hej
      rw [hk] at hk'
      cases hk'
      cases hs
      exact Or.inl rfl
  | .ok (.replaced v),.ok (.replaced u) => exact Or.inr ⟨v,u,rfl,rfl⟩
  | .ok (.verdict p m r fs),.ok (.replaced u) =>
      cases hs
      exact (hei.not_replaced hej).elim
  | .ok (.replaced v),.ok (.verdict p m r fs) =>
      cases hs
      exact (hej.not_replaced hei).elim

end Discreet

/-- A rule that says the same of every value, given its arguments. -/
def Rule.Discreet (r : Rule) : Prop := ∀ b, Vetting.Discreet fun v => r.run v b

theorem Rule.Discreet.call {r : Rule} (h : r.Discreet) (args : List Value)
    (byName : Named Value) : Vetting.Discreet fun v => r.call v args byName :=
  .bind fun b _ => h b

namespace Rules
open Vetting.Discreet

theorem plainRule_discreet (name : String) (passes : Value → Bool) :
    (plainRule name passes).Discreet := by
  rintro ⟨_ | _,_,_⟩
  · exact verdict .nil passes
  · exact unbound

theorem textRule_discreet (name : String) (f : List Char → List Char) :
    (textRule name f).Discreet := by
  rintro ⟨_ | _,_,_⟩
  · exact orFail_bind (replaced _)
  · exact unbound

theorem ordered_discreet (name : String) (accepted : List Int) :
    (ordered name accepted).Discreet := by
  rintro ⟨_ | ⟨x,_ | ⟨message,_ | _⟩⟩,_,_⟩
  · exact unbound
  · exact unbound
  · exact orFail_bind (verdict (.x x) Prod.snd)
  · exact unbound

theorem eq_discreet : eq.Discreet := by
  rintro ⟨_ | ⟨x,_ | ⟨message,_ | _⟩⟩,_,_⟩
  · exact unbound
  · exact unbound
  · exact orFail_bind (verdict (.x x) Prod.snd)
  · exact unbound

theorem seq_discreet : seq.Discreet := by
  rintro ⟨_ | ⟨x,_ | ⟨message,_ | _⟩⟩,_,_⟩
  · exact unbound
  · exact unbound
  · exact orFail_bind (verdict (.x x) Prod.snd)
  · exact unbound

theorem between_discreet : between.Discreet := by
  rintro ⟨_ | ⟨x,_ | ⟨y,_ | ⟨message,_ | _⟩⟩⟩,_,_⟩
  · exact unbound
  · exact unbound
  · exact unbound
  · exact orFail_bind (verdict (.xy x y) Prod.snd)
  · exact unbound

theorem isIn_discreet : isIn.Discreet := by
  rintro ⟨_,rest,_ | ⟨strict,_ | _⟩⟩
  · exact unbound
  · exact orFail_bind (bind fun s _ => verdict (.x (.text s)) Prod.snd)
  · exact unbound

/-- The bound is shown as it was read. -/
theorem sized_discreet (name : String) (accepts : Int → Int → Bool) :
    (sized name accepts).Discreet := by
  rintro ⟨_ | ⟨x,_ | ⟨message,_ | _⟩⟩,_,_⟩
  · exact unbound
  · exact unbound
  · exact bind fun limit _ => orFail_bind (verdict (.x (.int limit)) _)
  · exact unbound

theorem lbetween_discreet : lbetween.Discreet := by
  rintro ⟨_ | ⟨x,_ | ⟨y,_ | ⟨message,_ | _⟩⟩⟩,_,_⟩
  · exact unbound
  · exact unbound
  · exact unbound
  · exact orFail_bind (bind fun low _ => bind fun high _ =>
      verdict (.xy (.int low) (.int high)) _)
  · exact unbound

theorem digits_discreet : digits.Discreet := by
  rintro ⟨_ | _,_,_⟩
  · exact orFail_bind (verdict .nil Prod.snd)
  · exact unbound

theorem lettered_discreet (name : String) (letters : List Char) :
    (lettered name letters).Discreet := by
  rintro ⟨_ | ⟨including,_ | _⟩,_,_⟩
  · exact unbound
  · exact bind fun more _ => orFail_bind (verdict .nil Prod.snd)
  · exact unbound

theorem asExtract_discreet : asExtract.Discreet := by
  rintro ⟨_ | ⟨k,_ | _⟩,_,_⟩
  · exact unbound
  · exact bind fun inside _ => orFail_bind (orFail_bind (replaced _))
  · exact unbound

theorem asDigits_discreet : asDigits.Discreet := by
  rintro ⟨_ | _,_,_⟩
  · exact orFail_bind (orFail_bind (replaced _))
  · exact unbound

theorem truncated_discreet (size ending : Value) :
    Vetting.Discreet fun v => truncated v size ending := by
  refine orFail_bind (bind fun n _ => ?_)
  split
  · exact replaced _
  · refine replacedOrFailed "" fun p => ?_
    split
    · exact Or.inr (Or.inr ⟨_,rfl⟩)
    · exact Or.inl ⟨_,rfl⟩

theorem asTruncate_discreet : asTruncate.Discreet := by
  rintro ⟨_ | ⟨size,_ | ⟨ending,_ | _⟩⟩,_,_⟩
  · exact unbound
  · exact unbound
  · exact truncated_discreet size ending
  · exact unbound

theorem asLimit_discreet : asLimit.Discreet := by
  rintro ⟨_ | ⟨size,_ | _⟩,_,_⟩
  · exact unbound
  · exact truncated_discreet size (.text "")
  · exact unbound

theorem asReplace_discreet : asReplace.Discreet := by
  rintro ⟨_ | ⟨x,_ | ⟨y,_ | _⟩⟩,_,_⟩
  · exact unbound
  · exact unbound
  · refine orFail_bind ?_
    split
    · exact replaced _
    · exact unbound
  · exact unbound

theorem asPregReplace_discreet : asPregReplace.Discreet := by
  rintro ⟨_ | ⟨pattern,_ | ⟨replacement,_ | ⟨limit,_ | _⟩⟩⟩,_,_⟩
  · exact unbound
  · exact unbound
  · exact unbound
  · exact bind fun n _ => orFail_bind (orFail_bind (replaced _))
  · exact unbound

theorem asJsonEncode_discreet : asJsonEncode.Discreet := by
  rintro ⟨_ | _,_,_⟩
  · refine replacedOrFailed "asJsonEncode" fun v => ?_
    dsimp only [asJsonEncode]
    split
    · exact Or.inl ⟨_,rfl⟩
    · exact Or.inr (Or.inl rfl)
  · exact unbound

theorem asJsonDecode_discreet : asJsonDecode.Discreet := by
  rintro ⟨_ | _,_,_⟩
  · refine orFail_bind (replacedOrFailed "asJsonDecode" fun p => ?_)
    split
    · exact Or.inl ⟨_,rfl⟩
    · exact Or.inr (Or.inl rfl)
    · exact Or.inr (Or.inr ⟨_,rfl⟩)
  · exact unbound

/-- A rounding that does not exist is refused before the value is read. -/
theorem asRound_discreet : asRound.Discreet := by
  rintro ⟨_ | ⟨precision,_ | ⟨mode,_ | _⟩⟩,_,_⟩
  · exact unbound
  · exact unbound
  · refine bind fun places _ => bind fun name _ => ?_
    split
    · exact error _
    · exact orFail_bind (orFail_bind (replaced _))
  · exact unbound

theorem integralRule_discreet (name : String) (f : Number.Binary64 → Int) :
    (integralRule name f).Discreet := by
  rintro ⟨_ | _,_,_⟩
  · exact orFail_bind (replaced _)
  · exact unbound

theorem asDecimal_discreet : asDecimal.Discreet := by
  rintro ⟨_,rest,_⟩
  refine orFail_bind (orFail_bind (replacedOrFailed "asDecimal" fun p => ?_))
  split
  · exact Or.inl ⟨_,rfl⟩
  · exact Or.inr (Or.inl rfl)

theorem asCardNumber_discreet : asCardNumber.Discreet := by
  rintro ⟨_ | _,_,_⟩
  · refine orFail_bind (replacedOrFailed "asCardNumber" fun p => ?_)
    split
    · exact Or.inl ⟨_,rfl⟩
    · exact Or.inr (Or.inl rfl)
  · exact unbound

theorem taxpayerRule_discreet (name : String) (read : List Char → Option (List Char))
    (write : List Char → List Char) : (taxpayerRule name read write).Discreet := by
  rintro ⟨_ | ⟨formatted,_ | _⟩,_,_⟩
  · exact unbound
  · refine orFail_bind (replacedOrFailed name fun p => ?_)
    split
    · exact Or.inl ⟨_,rfl⟩
    · exact Or.inr (Or.inl rfl)
  · exact unbound

theorem transformers_discreet : ∀ e ∈ transformers, e.2.2.Discreet := by
  simp only [transformers,List.forall_mem_cons]
  exact ⟨textRule_discreet _ _,textRule_discreet _ _,textRule_discreet _ _,
    asExtract_discreet,asDigits_discreet,asTruncate_discreet,asLimit_discreet,
    asReplace_discreet,asPregReplace_discreet,asJsonEncode_discreet,asJsonDecode_discreet,
    asRound_discreet,integralRule_discreet _ _,integralRule_discreet _ _,
    asDecimal_discreet,asCardNumber_discreet,taxpayerRule_discreet _ _ _,
    taxpayerRule_discreet _ _ _,List.forall_mem_nil _⟩

theorem validators_discreet : ∀ e ∈ validators mail, e.2.2.Discreet := by
  have hplain := plainRule_discreet
  simp only [validators,List.forall_mem_cons]
  exact ⟨eq_discreet,seq_discreet,between_discreet,ordered_discreet _ _,
    ordered_discreet _ _,ordered_discreet _ _,ordered_discreet _ _,isIn_discreet,
    lbetween_discreet,sized_discreet _ _,sized_discreet _ _,sized_discreet _ _,
    sized_discreet _ _,hplain _ _,hplain _ _,hplain _ _,hplain _ _,hplain _ _,hplain _ _,
    hplain _ _,hplain _ _,hplain _ _,hplain _ _,hplain _ _,hplain _ _,hplain _ _,
    hplain _ _,hplain _ _,digits_discreet,lettered_discreet _ _,lettered_discreet _ _,
    hplain _ _,hplain _ _,hplain _ _,List.forall_mem_nil _⟩

end Rules

/-- Every rule in a registry was there before or has been registered under its name. -/
theorem get?_registerAll {rules : List (String × List String × Rule)} {r : Registry Rule}
    {name : String} {rule : Rule} (h : (registerAll r rules).get? name = some rule) :
    r.get? name = some rule ∨ ∃ e ∈ rules, name ∈ e.1 :: e.2.1 ∧ e.2.2 = rule := by
  induction rules generalizing r with
  | nil => exact Or.inl h
  | cons e rest ih =>
      rcases ih h with hr | ⟨d,hd,hname,hrule⟩
      · rw [Registry.get?_register] at hr
        split at hr
        · rename_i hname
          exact Or.inr ⟨e,List.mem_cons_self,hname,Option.some.inj hr⟩
        · exact Or.inl hr
      · exact Or.inr ⟨d,List.mem_cons_of_mem e hd,hname,hrule⟩

/-- A registry all of whose rules say the same of every value. -/
def Registry.Discreet (ρ : Registry Rule) : Prop :=
  ∀ name r, ρ.get? name = some r → r.Discreet

theorem Rules.standard_discreet (mail : Rules.MailReader) : (Rules.standard mail).Discreet := by
  intro name r h
  rcases get?_registerAll h with hr | ⟨e,he,-,rfl⟩
  · cases hr
  · rcases List.mem_append.mp he with he | he
    · exact transformers_discreet e he
    · exact validators_discreet e he

end Vetting
