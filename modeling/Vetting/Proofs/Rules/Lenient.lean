import Vetting.Chain.Run
import Vetting.Proofs.Rules.Contract

/-!
# What can be left out can be left empty

Arguments are bound to parameters one by one, and a call without arguments by name can be
bound exactly if there are no more arguments than parameters and each of the others has a
default. Rules that judge have at most one parameter that can be left out, and it is the
last one. An empty text in its place makes no difference to a chain, as an empty message
says as little as none, and no character at all is what the others include by default.
-/
namespace Vetting
variable {mail : Rules.MailReader}

namespace Signature
variable {p : Parameter} {ps : List Parameter} {args : List Value} {v : Value}

theorem bindAll_given (p : Parameter) (ps : List Parameter) (v : Value) (args : List Value) :
    bindAll [] (p :: ps) (v :: args) = (bindAll [] ps args).map (v :: ·) := by
  have hb : bindAll [] (p :: ps) (v :: args) =
      (bindAll [] ps args >>= fun vs => .ok (v :: vs)) := rfl
  rw [hb]
  cases bindAll [] ps args <;> rfl

theorem bindAll_default (h : p.default = some v) (ps : List Parameter) :
    bindAll [] (p :: ps) [] = (bindAll [] ps []).map (v :: ·) := by
  have hb : p.bind [] none = .ok v := by
    simp [Parameter.bind,Named.get?,h]
  have he : bindAll [] (p :: ps) [] =
      (p.bind [] none >>= fun v => bindAll [] ps [] >>= fun vs => .ok (v :: vs)) := rfl
  rw [he,hb]
  cases bindAll [] ps [] <;> rfl

theorem bindAll_missing (h : p.default = none) (ps : List Parameter) :
    bindAll [] (p :: ps) [] = .error .wrongKind := by
  have hb : p.bind [] none = .error .wrongKind := by
    simp [Parameter.bind,Named.get?,h]
  have he : bindAll [] (p :: ps) [] =
      (p.bind [] none >>= fun v => bindAll [] ps [] >>= fun vs => .ok (v :: vs)) := rfl
  rw [he,hb]
  rfl

/-- Without arguments by name, parameters can be bound exactly if all that are left over have
a default. -/
theorem bindAll_ok_iff :
    (∃ vs, bindAll [] ps args = .ok vs) ↔
      ∀ p ∈ ps.drop args.length, p.default.isSome = true := by
  have hmap : ∀ {x : Except Fault (List Value)} {v : Value},
      (∃ vs, x.map (v :: ·) = .ok vs) ↔ ∃ vs, x = .ok vs := by
    intro x v
    cases x <;> simp [Except.map]
  induction ps generalizing args with
  | nil => simp [bindAll]
  | cons p rest ih =>
      cases args with
      | cons v more =>
          rw [bindAll_given]
          exact hmap.trans ih
      | nil =>
          have hr := @ih []
          rw [List.length_nil,List.drop_zero] at hr ⊢
          cases hp : p.default with
          | none => simp [bindAll_missing hp,hp]
          | some v =>
              rw [bindAll_default hp,List.forall_mem_cons,hp]
              exact hmap.trans (hr.trans (and_iff_right rfl).symm)

/-- A call without arguments by name can be bound exactly if there are not too many, and all
parameters that are left over have a default. -/
theorem bind_ok_iff {s : Signature} :
    (∃ b, s.bind args [] = .ok b) ↔
      (s.variadic = false → args.length ≤ s.parameters.length) ∧
      (∀ p ∈ s.parameters.drop args.length, p.default.isSome = true) ∧
      ∀ p ∈ s.keywords, p.default.isSome = true := by
  have hk : (∃ vs, bindAll [] s.keywords [] = .ok vs) ↔
      ∀ p ∈ s.keywords, p.default.isSome = true := bindAll_ok_iff
  by_cases hlong : s.variadic = false ∧ s.parameters.length < args.length
  · have hb : s.bind args [] = .error .wrongKind := by
      rw [bind,if_pos (by simpa using hlong)]
    rw [hb]
    constructor
    · rintro ⟨b,⟨⟩⟩
    · rintro ⟨hle,-⟩
      exact absurd (hle hlong.1) (Nat.not_le.mpr hlong.2)
  · have hb : s.bind args [] = (bindAll [] s.parameters args >>= fun given =>
        bindAll [] s.keywords [] >>= fun named =>
          .ok ⟨given,args.drop s.parameters.length,named⟩) := by
      rw [bind,if_neg (by simpa using hlong)]
      rfl
    rw [hb]
    have hle : s.variadic = false → args.length ≤ s.parameters.length :=
      fun hv => Nat.le_of_not_lt fun hlt => hlong ⟨hv,hlt⟩
    refine Iff.trans ?_ (and_iff_right hle).symm
    refine Iff.trans ?_ (and_congr bindAll_ok_iff hk)
    cases bindAll [] s.parameters args with
    | error f => simp [Bind.bind,Except.bind]
    | ok given => cases bindAll [] s.keywords [] <;> simp [Bind.bind,Except.bind]

end Signature

namespace Outcome

/-- An outcome with the message that a check goes by. -/
def settled : Outcome → Outcome
  | .verdict passed message rule fields =>
      .verdict passed (Run.messageKey message rule) rule fields
  | .replaced v => .replaced v

end Outcome

theorem Run.messageKey_messageKey (message : Value) (rule : String) :
    messageKey (messageKey message rule) rule = messageKey message rule := by
  unfold messageKey
  split
  · rfl
  · split <;> rfl

/-- Only the message that a check goes by shows on a chain. -/
theorem Run.conclude_settled (σ : Setting) (i : Nat) (o : Outcome) :
    conclude σ i o.settled = conclude σ i o := by
  cases o with
  | replaced v => rfl
  | verdict passed message rule fields =>
      simp only [Outcome.settled,conclude,check,messageKey_messageKey]

/-- Two computations of outcomes that no chain can tell apart. -/
def Concur (x y : Except Failure Outcome) : Prop :=
  x.map Outcome.settled = y.map Outcome.settled

namespace Concur
variable {α : Type}

theorem refl (x : Except Failure Outcome) : Concur x x := rfl

theorem bind (x : Except Failure α) {f g : α → Except Failure Outcome}
    (h : ∀ a, Concur (f a) (g a)) : Concur (x >>= f) (x >>= g) := by
  cases x with
  | error e => exact refl _
  | ok a => exact h a

/-- A message that says nothing. -/
theorem verdict {passed : Bool} {m m' : Value} {rule : String} {fields : Named Value}
    (hm : m.truth = false) (hm' : m'.truth = false) :
    Concur (.ok (.verdict passed m rule fields)) (.ok (.verdict passed m' rule fields)) := by
  have hk : ∀ {m : Value}, m.truth = false → Run.messageKey m rule = .text rule := by
    intro m hm
    rw [Run.messageKey,hm]
    rfl
  simp [Concur,Except.map,Outcome.settled,hk hm,hk hm']

end Concur

/-- A rule with at most one parameter that can be left out, which is the last one. An empty
text in its place does what leaving it out does. -/
structure Rule.Lenient (r : Rule) : Prop where
  closed : r.signature.variadic = false
  needed : ∀ p ∈ r.signature.parameters.dropLast, p.default = none
  blank : ∀ v args, args.length + 1 = r.signature.parameters.length →
    Concur (r.call v (args ++ [.text ""]) []) (r.call v args [])

namespace Rules
open Concur

theorem plainRule_lenient (name : String) (passes : Value → Bool) :
    (plainRule name passes).Lenient :=
  ⟨rfl,nofun,fun _ _ => nofun⟩

theorem eq_lenient : eq.Lenient := by
  refine ⟨rfl,by simp [eq,xParameter],?_⟩
  rintro v (_ | ⟨x,_ | _⟩) h
  · cases h
  · exact bind _ fun _ => verdict rfl rfl
  · cases h

theorem seq_lenient : seq.Lenient := by
  refine ⟨rfl,by simp [seq,xParameter],?_⟩
  rintro v (_ | ⟨x,_ | _⟩) h
  · cases h
  · exact bind _ fun _ => verdict rfl rfl
  · cases h

theorem ordered_lenient (name : String) (accepted : List Int) :
    (ordered name accepted).Lenient := by
  refine ⟨rfl,by simp [ordered,xParameter],?_⟩
  rintro v (_ | ⟨x,_ | _⟩) h
  · cases h
  · exact bind _ fun _ => verdict rfl rfl
  · cases h

theorem between_lenient : between.Lenient := by
  refine ⟨rfl,by simp [between,xParameter,yParameter],?_⟩
  rintro v (_ | ⟨x,_ | ⟨y,_ | _⟩⟩) h
  · cases h
  · cases h
  · exact bind _ fun _ => verdict rfl rfl
  · cases h

theorem sized_lenient (name : String) (accepts : Int → Int → Bool) :
    (sized name accepts).Lenient := by
  refine ⟨rfl,by simp [sized,xParameter],?_⟩
  rintro v (_ | ⟨x,_ | _⟩) h
  · cases h
  · exact bind _ fun _ => bind _ fun _ => verdict rfl rfl
  · cases h

theorem lbetween_lenient : lbetween.Lenient := by
  refine ⟨rfl,by simp [lbetween,xParameter,yParameter],?_⟩
  rintro v (_ | ⟨x,_ | ⟨y,_ | _⟩⟩) h
  · cases h
  · cases h
  · exact bind _ fun _ => bind _ fun _ => bind _ fun _ => verdict rfl rfl
  · cases h

theorem digits_lenient : digits.Lenient := ⟨rfl,nofun,fun _ _ => nofun⟩

/-- No character at all is what is included by default. -/
theorem lettered_lenient (name : String) (letters : List Char) :
    (lettered name letters).Lenient := by
  refine ⟨rfl,by simp [lettered],?_⟩
  rintro v (_ | _) h
  · exact refl _
  · cases h

theorem validators_lenient : ∀ e ∈ validators mail, e.1 ≠ "in" → e.2.2.Lenient := by
  have hplain : ∀ {p : Prop} (name : String) (passes : Value → Bool),
      p → (plainRule name passes).Lenient := fun name passes _ => plainRule_lenient name passes
  simp only [validators,List.forall_mem_cons]
  exact ⟨fun _ => eq_lenient,fun _ => seq_lenient,fun _ => between_lenient,
    fun _ => ordered_lenient _ _,fun _ => ordered_lenient _ _,fun _ => ordered_lenient _ _,
    fun _ => ordered_lenient _ _,fun h => absurd rfl h,fun _ => lbetween_lenient,
    fun _ => sized_lenient _ _,fun _ => sized_lenient _ _,fun _ => sized_lenient _ _,
    fun _ => sized_lenient _ _,hplain _ _,hplain _ _,hplain _ _,hplain _ _,hplain _ _,
    hplain _ _,hplain _ _,hplain _ _,hplain _ _,hplain _ _,hplain _ _,hplain _ _,hplain _ _,
    hplain _ _,hplain _ _,fun _ => digits_lenient,fun _ => lettered_lenient _ _,
    fun _ => lettered_lenient _ _,hplain _ _,hplain _ _,hplain _ _,List.forall_mem_nil _⟩

end Rules

namespace Rule.Lenient
variable {r : Rule} {args : List Value}

/-- Where no argument that is needed is missing, at most one can be added. -/
theorem length_le (h : r.Lenient)
    (hargs : ∀ p ∈ r.signature.parameters.drop args.length, p.default.isSome = true) :
    r.signature.parameters.length ≤ args.length+1 := by
  by_contra hlong
  have hlt : args.length < r.signature.parameters.dropLast.length := by
    rw [List.length_dropLast]
    omega
  have hmem := List.getElem_mem hlt
  have hdrop : r.signature.parameters.dropLast[args.length] ∈
      r.signature.parameters.drop args.length := by
    rw [List.getElem_dropLast,List.mem_drop_iff_getElem]
    exact ⟨0,by omega,by simp⟩
  have hs := hargs _ hdrop
  rw [h.needed _ hmem] at hs
  cases hs

/-- Empty texts after the arguments that are needed, as many as the rule takes, make no
difference. -/
theorem concur (h : r.Lenient)
    (hargs : ∀ p ∈ r.signature.parameters.drop args.length, p.default.isSome = true)
    (m : Nat) (v : Value) :
    let taken := r.signature.parameters.length
    Concur (r.call v ((args ++ List.replicate m (Value.text "")).take taken) [])
      (r.call v (args.take taken) []) := by
  intro taken
  have hle : taken ≤ args.length+1 := h.length_le hargs
  rcases Nat.lt_or_ge args.length taken with hlt | hge
  · have htaken : args.length+1 = taken := by omega
    rw [List.take_of_length_le (Nat.le_of_lt hlt)]
    cases m with
    | zero =>
        rw [List.replicate_zero,List.append_nil,List.take_of_length_le (Nat.le_of_lt hlt)]
        exact .refl _
    | succ m =>
        have ht : (args ++ List.replicate (m+1) (Value.text "")).take taken =
            args ++ [.text ""] := by
          rw [← htaken,List.take_length_add_append]
          rfl
        rw [ht]
        exact h.blank v args htaken
  · rw [List.take_append_of_le_length hge]
    exact .refl _

end Rule.Lenient

end Vetting
