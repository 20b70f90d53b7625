import Vetting.Rule.Basic

/-!
# What is bound to the parameters of a rule

Arguments that can be bound are bound to all parameters in their order. Each parameter gets the
argument in its position or under its name, or else its default, so that what holds of all
arguments and defaults holds of all that a rule is given.
-/
namespace Vetting

variable {byName : Named Value} {P : Value → Prop}

/-- What is bound to a parameter is an argument, or else the default. -/
theorem Parameter.bind_induction {p : Parameter} {positional : Option Value} {v : Value}
    (hpositional : ∀ x ∈ positional, P x) (hnamed : ∀ a ∈ byName, P a.2)
    (hdefault : ∀ x ∈ p.default, P x) (h : p.bind byName positional = .ok v) : P v := by
  rw [bind.eq_def] at h
  split at h
  · cases h
    exact hpositional v rfl
  · cases h
  · rename_i hget
    cases h
    exact hnamed _ (Named.mem_of_get? hget)
  · split at h
    · rename_i hdef
      cases h
      exact hdefault v hdef
    · cases h

namespace Signature
variable {s : Signature} {p : Parameter} {ps : List Parameter} {args vs : List Value} {b : Bound}

theorem exists_of_bindAll (h : bindAll byName (p :: ps) args = .ok vs) :
    ∃ v rest, p.bind byName args.head? = .ok v ∧ bindAll byName ps args.tail = .ok rest ∧
      vs = v :: rest := by
  rw [bindAll] at h
  cases hp : p.bind byName args.head? with
  | error f => simp [hp,Bind.bind,Except.bind] at h
  | ok v =>
      cases hps : bindAll byName ps args.tail with
      | error f => simp [hp,hps,Bind.bind,Except.bind] at h
      | ok rest =>
          rw [hp,hps] at h
          cases h
          exact ⟨v,rest,rfl,rfl,rfl⟩

theorem length_of_bindAll (h : bindAll byName ps args = .ok vs) : vs.length = ps.length := by
  induction ps generalizing args vs with
  | nil =>
      cases h
      rfl
  | cons p ps ih =>
      obtain ⟨v,rest,-,hrest,rfl⟩ := exists_of_bindAll h
      rw [List.length_cons,List.length_cons,ih hrest]

theorem bindAll_induction (hargs : ∀ x ∈ args, P x) (hnamed : ∀ a ∈ byName, P a.2)
    (hdefault : ∀ p ∈ ps, ∀ x ∈ p.default, P x) (h : bindAll byName ps args = .ok vs) :
    ∀ v ∈ vs, P v := by
  induction ps generalizing args vs with
  | nil =>
      cases h
      exact nofun
  | cons p ps ih =>
      obtain ⟨v,rest,hv,hrest,rfl⟩ := exists_of_bindAll h
      obtain ⟨hp,hps⟩ := List.forall_mem_cons.mp hdefault
      refine List.forall_mem_cons.mpr ⟨?_,?_⟩
      · exact p.bind_induction (fun x hx => hargs x (List.mem_of_mem_head? hx)) hnamed hp hv
      · exact ih (fun x hx => hargs x (List.mem_of_mem_tail hx)) hps hrest

theorem bindAll_of_bind (h : s.bind args byName = .ok b) :
    bindAll byName s.parameters args = .ok b.given ∧ b.rest = args.drop s.parameters.length ∧
      bindAll byName s.keywords [] = .ok b.named := by
  rw [bind] at h
  split at h
  · cases h
  split at h
  · cases h
  cases hgiven : bindAll byName s.parameters args with
  | error f => simp [hgiven,Bind.bind,Except.bind] at h
  | ok given =>
      cases hnamed : bindAll byName s.keywords [] with
      | error f => simp [hgiven,hnamed,Bind.bind,Except.bind] at h
      | ok named =>
          rw [hgiven,hnamed] at h
          cases h
          exact ⟨rfl,rfl,rfl⟩

theorem mem_openNames_of_bind (h : s.bind args byName = .ok b) :
    ∀ a ∈ byName, a.1 ∈ s.openNames := by
  rw [bind] at h
  split at h
  · cases h
  split at h
  · cases h
  · rename_i hopen
    simpa using hopen

end Signature

end Vetting
