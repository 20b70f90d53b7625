import Vetting.Proofs.Rules.Rounding

/-!
# Rules that take integers

Nine rules have parameters that have to be integers. Each of them runs in stages: something can
fail before such an argument is read, and this does not depend on it; the reading can refuse it;
and what is done with the integer then fails for every other one too, unless the integer is
beyond what the rule has a use for.
-/
namespace Vetting.Rules
open Number
variable {mail : MailReader}

/-- The rules with arguments that have to be integers. -/
inductive Sizing where
  | lbetween | lgt | lgte | llt | llte | truncate | limit | replace | round

/-- Another value in the place of one that is bound. -/
def boundAt (b : Bound) (j : Nat) (a : Value) : Bound := { b with given := b.given.set j a }

namespace Sizing

def name : Sizing → String
  | .lbetween => "lbetween"
  | .lgt => "lgt"
  | .lgte => "lgte"
  | .llt => "llt"
  | .llte => "llte"
  | .truncate => "asTruncate"
  | .limit => "asLimit"
  | .replace => "asPregReplace"
  | .round => "asRound"

def rule : Sizing → Rule
  | .lbetween => Rules.lbetween
  | .lgt => Rules.lgt
  | .lgte => Rules.lgte
  | .llt => Rules.llt
  | .llte => Rules.llte
  | .truncate => asTruncate
  | .limit => asLimit
  | .replace => asPregReplace
  | .round => asRound

theorem get?_name (k : Sizing) : (standard mail).get? k.name = some k.rule :=
  get?_of_listed (by cases k <;> simp [name,rule,transformers,validators])

/-- The places of the parameters that have to be integers. -/
def places : Sizing → List Nat
  | .lbetween => [0,1]
  | .replace => [2]
  | _ => [0]

/-- The name under which an argument is refused: a limit is a text cut without an ending. -/
def refuser : Sizing → String
  | .limit => "asTruncate"
  | k => k.name

/-- The integers that a rule has a use for. A finite number can be rounded to so many places
only, and so many matches can be replaced. -/
def Within (v : Value) (n : Int) : Sizing → Prop
  | .replace => n.toNat < replacementLimit
  | .round => ∀ x, v.toFloat = .ok x → x.isFinite = true → Placeable n
  | _ => True

end Sizing

/-- How a rule comes to an outcome by way of an argument, refused under some name. What fails with
an integer that there is a use for fails with any other one. An integer that there is no use for
ends in a fault, unless the rule fails anyway. -/
structure Stages {α : Type} (run : Value → Except Failure Outcome) (refuser : String)
    (within : Int → Prop) (before : Except Failure α)
    (rest : α → Int → Except Failure Outcome) : Prop where
  run_eq : ∀ a, run a = before >>= fun s => intArgument refuser a >>= rest s
  alike : ∀ s n f, within n → rest s n = .error f → rest s (-1) = .error f
  beyond : ∀ s n, ¬ within n → ∃ f, rest s n = .error f ∧
    (rest s (-1) = .error f ∨ ∃ g, f = .fault g)

def Staged (run : Value → Except Failure Outcome) (refuser : String) (within : Int → Prop) : Prop :=
  ∃ (α : Type) (before : Except Failure α) (rest : α → Int → Except Failure Outcome),
    Stages run refuser within before rest

/-- Arguments that cannot be read, or not be shown as what is no integer, and those that are read
as an integer that there is no use for, or that is not as good as one that they spell. -/
inductive Misread (run : Value → Except Failure Outcome) (within : Int → Prop) (a : Value) : Prop
  | unread (h : a.Unreadable)
  | unwritten (hnone : ∀ n, ¬ a.ReadAs n) (h : a.Unwritable)
  | beyond {n : Int} (hn : a.ReadAs n) (h : ¬ within n)
  | blurred {n : Int} (hn : a.ReadAs n) (h : ∀ m, a.Spells m → run (.int m) ≠ run (.int n))

/-- How a rule takes an argument. -/
inductive Received (run : Value → Except Failure Outcome) (refuser : String) (within : Int → Prop)
    (a : Value) : Prop
  | anyway {f : Failure} (h : run a = .error f) (hother : run (.int (-1)) = .error f)
  | used {n : Int} {o : Outcome} (hgood : ¬ Misread run within a) (hn : a.Spells n)
      (h : run a = .ok o) (hint : run (.int n) = .ok o)
  | refused (hgood : ¬ Misread run within a) (hnone : ∀ n, ¬ a.ReadAs n)
      (h : run a = .error (.notAnInteger refuser a))
  | faulty {f : Fault} (hbad : Misread run within a) (h : run a = .error (.fault f))
  | blurred {o : Outcome} (hbad : Misread run within a) (h : run a = .ok o)
      (hint : ∀ n, a.Spells n → run (.int n) ≠ .ok o)

section
variable {run : Value → Except Failure Outcome} {refuser : String} {within : Int → Prop} {a : Value}

theorem refuseInteger_cases (rule : String) (a : Value) :
    (¬ a.Unwritable ∧ Failure.refuseInteger rule a = .notAnInteger rule a) ∨
      a.Unwritable ∧ ∃ f, Failure.refuseInteger rule a = .fault f := by
  have hwrites := Value.literal_writes a
  rw [Failure.refuseInteger]
  cases hliteral : a.literal with
  | ok s => exact Or.inl ⟨hwrites.exists_iff.2.mp ⟨s,hliteral⟩,rfl⟩
  | error f => exact Or.inr ⟨hwrites.exists_iff.1.mp ⟨f,hliteral⟩,f,rfl⟩

/-- What is read as an integer that there is a use for is misread only if it is taken for another
one that does not come to the same. -/
theorem misread_iff_of_readAs {n : Int} (hn : a.ReadAs n) (hr : ¬ a.Unreadable)
    (hwithin : within n) :
    Misread run within a ↔ ∀ m, a.Spells m → run (.int m) ≠ run (.int n) := by
  refine ⟨?_,.blurred hn⟩
  have hunique {m : Int} (hm : a.ReadAs m) : m = n := by
    cases (Value.toInt_of_readAs hm hr).symm.trans (Value.toInt_of_readAs hn hr)
    rfl
  rintro (h | ⟨h,-⟩ | ⟨hm,h⟩ | ⟨hm,h⟩)
  · exact absurd h hr
  · exact absurd hn (h n)
  · exact absurd (hunique hm ▸ hwithin) h
  · exact hunique hm ▸ h

/-- An argument that is read as an integer is taken for it. -/
theorem received_of_readAs {n : Int} (hn : a.ReadAs n) (hr : ¬ a.Unreadable)
    (ha : run a = run (.int n))
    (halike : ∀ f, within n → run (.int n) = .error f → run (.int (-1)) = .error f)
    (hbeyond : ¬ within n → ∃ f, run (.int n) = .error f ∧
      (run (.int (-1)) = .error f ∨ ∃ g, f = .fault g)) :
    Received run refuser within a := by
  by_cases hwithin : within n
  · have hmisread : Misread run within a ↔ _ := misread_iff_of_readAs hn hr hwithin
    cases ho : run (.int n) with
    | error f => exact .anyway (ha.trans ho) (halike f hwithin ho)
    | ok o =>
        rw [ho] at hmisread
        by_cases hbad : Misread run within a
        · exact .blurred hbad (ha.trans ho) (hmisread.mp hbad)
        · have hsame := mt hmisread.mpr hbad
          push Not at hsame
          obtain ⟨m,hm,hsame⟩ := hsame
          exact .used hbad hm (ha.trans ho) hsame
  · obtain ⟨f,hf,hother | ⟨g,rfl⟩⟩ := hbeyond hwithin
    · exact .anyway (ha.trans hf) hother
    · exact .faulty (.beyond hn hwithin) (ha.trans hf)

/-- Where a rule runs in stages, its argument is used, refused or misread, unless the rule fails
as it does with any other one. -/
theorem Staged.received (h : Staged run refuser within) (a : Value) :
    Received run refuser within a := by
  obtain ⟨α,before,rest,hrun,halike,hbeyond⟩ := h
  cases before with
  | error f => exact .anyway (hrun a) (hrun _)
  | ok s =>
      have hint (n : Int) : run (.int n) = rest s n := hrun (.int n)
      have ha : run a = intArgument refuser a >>= rest s := hrun a
      rw [intArgument] at ha
      have hread := Value.toInt_reading a
      cases htoInt : a.toInt with
      | error f =>
          rw [htoInt] at ha
          exact .faulty (.unread (Value.exists_toInt_error_iff.mp ⟨f,htoInt⟩)) ha
      | ok o =>
          rw [htoInt] at ha hread
          cases hread with
          | none hnone hr =>
              rcases refuseInteger_cases refuser a with ⟨hw,hf⟩ | ⟨hw,f,hf⟩
              · refine .refused ?_ hnone (ha.trans (congrArg Except.error hf))
                rintro (h | ⟨-,h⟩ | ⟨h,-⟩ | ⟨h,-⟩)
                · exact hr h
                · exact hw h
                · exact hnone _ h
                · exact hnone _ h
              · exact .faulty (.unwritten hnone hw) (ha.trans (congrArg Except.error hf))
          | @integer n hn hr =>
              refine received_of_readAs hn hr (ha.trans (hint n).symm) ?_ ?_
              · rw [hint,hint]
                exact halike s n
              · rw [hint,hint]
                exact hbeyond s n

end

section
variable {v : Value} {b : Bound} {f : Fault} {pattern replacement mode : Value} {s : List Char}
  {n : Int} {count : Nat}

/-! ## The stages of the rules -/

/-- A failure on the way stays, whatever goes on from there, if that fails alike. -/
theorem bind_error_alike {ε α β : Type} {x : Except ε α} {g g' : α → Except ε β} {e : ε}
    (h : x >>= g = .error e) (hg : ∀ a, x = .ok a → g a = .error e → g' a = .error e) :
    x >>= g' = .error e := by
  cases x with
  | error => exact h
  | ok a => exact hg a rfl h

theorem sized_staged (name : String) (accepts : Int → Int → Bool) (v : Value)
    (hlen : b.given.length = 2) :
    Staged (fun a => (sized name accepts).run v (boundAt b 0 a)) name fun _ => True := by
  obtain ⟨x,message,hb⟩ := List.length_eq_two.mp hlen
  refine ⟨Unit,.ok (),fun _ n => orFail v.length >>= fun size =>
    .ok (.verdict (accepts size n) message name [("x",.int n)]),fun a => ?_,
    fun _ _ _ _ h => bind_error_alike h fun _ _ h => (nomatch h),fun _ _ h => absurd trivial h⟩
  simp only [sized,boundAt,hb]
  rfl

theorem lbetween_low_staged (v : Value) (hlen : b.given.length = 3) :
    Staged (fun a => lbetween.run v (boundAt b 0 a)) "lbetween" fun _ => True := by
  obtain ⟨x,y,message,hb⟩ := List.length_eq_three.mp hlen
  refine ⟨Nat,orFail v.length,fun size low => intArgument "lbetween" y >>= fun high =>
    .ok (.verdict (low ≤ size && (size : Int) ≤ high) message "lbetween"
      [("x",.int low),("y",.int high)]),fun a => ?_,
    fun _ _ _ _ h => bind_error_alike h fun _ _ h => (nomatch h),fun _ _ h => absurd trivial h⟩
  simp only [lbetween,boundAt,hb]
  rfl

theorem lbetween_high_staged (v : Value) (hlen : b.given.length = 3) :
    Staged (fun a => lbetween.run v (boundAt b 1 a)) "lbetween" fun _ => True := by
  obtain ⟨x,y,message,hb⟩ := List.length_eq_three.mp hlen
  refine ⟨Nat × Int,orFail v.length >>= fun size => intArgument "lbetween" x >>= fun low =>
    .ok (size,low),fun s high => .ok (.verdict (s.2 ≤ s.1 && (s.1 : Int) ≤ high) message "lbetween"
      [("x",.int s.2),("y",.int high)]),fun a => ?_,fun _ _ _ _ h => (nomatch h),
    fun _ _ h => absurd trivial h⟩
  simp only [lbetween,boundAt,hb]
  cases orFail v.length with
  | error g => rfl
  | ok size => cases hlow : intArgument "lbetween" x <;> simp [hlow,Bind.bind,Except.bind]

/-- What a text is cut to. -/
def cut (ending : Value) (s : String) (n : Int) : Except Failure Outcome :=
  match ending with
  | .text e => .ok (replacedText (truncate n e.toList s.toList))
  | _ => if n < s.length then misbound else .ok (replacedText s.toList)

theorem truncated_staged (v ending : Value) :
    Staged (fun a => truncated v a ending) "asTruncate" fun _ => True := by
  refine ⟨String,orFail v.toText,cut ending,fun _ => rfl,fun s n f _ h => ?_,
    fun _ _ h => absurd trivial h⟩
  unfold cut at h ⊢
  split at h
  · cases h
  · split at h
    · rw [if_pos (by omega)]
      exact h
    · cases h

/-- The pattern that a value holds. -/
def patternOf : Value → Except Fault Pattern.Regex
  | .text e => Pattern.Regex.parse e.toList
  | .bytes bs => Pattern.Regex.parse (bytesText bs)
  | _ => .error .wrongKind

theorem substitute_eq (pattern replacement : Value) (s : List Char) (count : Nat) :
    substitute pattern replacement s count = patternOf pattern >>= fun p =>
      if replacementLimit ≤ count then .error .tooLarge
      else replacementOf p replacement >>= fun r =>
        if pattern.isText && (r.1 || !p.occursIn s) then
          .ok (p.replace (if count = 0 then none else some count) (Pattern.fillPieces r.2) s)
        else .error .wrongKind := by
  cases pattern <;> rfl

/-- A replacement fails no less without a limit than with one that there can be. -/
theorem substitute_error (hcount : count < replacementLimit)
    (h : substitute pattern replacement s count = .error f) :
    substitute pattern replacement s 0 = .error f := by
  rw [substitute_eq] at h ⊢
  refine bind_error_alike h fun p _ h => ?_
  rw [if_neg (not_le.mpr hcount)] at h
  rw [if_neg (by decide)]
  refine bind_error_alike h fun r _ h => ?_
  split at h
  · cases h
  · exact (if_neg ‹_›).trans h

theorem substitute_of_large (pattern replacement : Value) (s : List Char)
    (hcount : replacementLimit ≤ count) :
    ∃ f, substitute pattern replacement s count = .error f := by
  rw [substitute_eq]
  cases patternOf pattern with
  | error g => exact ⟨g,rfl⟩
  | ok p => exact ⟨.tooLarge,if_pos hcount⟩

theorem asPregReplace_staged (v : Value) (hlen : b.given.length = 3) :
    Staged (fun a => asPregReplace.run v (boundAt b 2 a)) "asPregReplace"
      fun n => Sizing.Within v n .replace := by
  obtain ⟨pattern,replacement,limit,hb⟩ := List.length_eq_three.mp hlen
  refine ⟨Unit,.ok (),fun _ n => orFail v.toText >>= fun s =>
    orFail (substitute pattern replacement s.toList n.toNat) >>= fun t => .ok (replacedText t),
    fun a => ?_,fun _ n f hn h => ?_,fun _ n hn => ?_⟩
  · simp only [asPregReplace,boundAt,hb]
    rfl
  · refine bind_error_alike h fun s _ h => ?_
    cases hsub : substitute pattern replacement s.toList n.toNat with
    | ok t =>
        rw [hsub] at h
        cases h
    | error g =>
        rw [hsub] at h
        rw [show (-1 : Int).toNat = 0 by rfl,substitute_error hn hsub]
        exact h
  · cases htext : v.toText with
    | error g => exact ⟨.fault g,rfl,Or.inl rfl⟩
    | ok s =>
        obtain ⟨g,hg⟩ := substitute_of_large pattern replacement s.toList (not_lt.mp hn)
        refine ⟨.fault g,?_,Or.inr ⟨g,rfl⟩⟩
        dsimp only [orFail,Bind.bind,Except.bind]
        rw [hg]

/-- A value is rounded to all places that there is a use for. -/
theorem exists_roundDecimal_of_within (hv : v.Proper) (hn : Sizing.Within v n .round) {d : Decimal}
    (hd : v.toDecimal = .ok d) (tie : Tie) : ∃ y, roundDecimal tie n d = .ok y := by
  rw [Value.toDecimal] at hd
  rcases Value.toFloat_cases hv with ⟨-,x,hx,hformat⟩ | ⟨-,f,hf⟩
  · rw [hx] at hd
    cases hd
    cases hfinite : x.isFinite with
    | true => exact exists_roundDecimal hformat tie (hn x hx hfinite)
    | false => exact ⟨x,roundDecimal_of_unbounded hfinite tie n⟩
  · rw [hf] at hd
    cases hd

/-- What a value is rounded to. -/
def rounded (v mode : Value) (places : Int) : Except Failure Outcome :=
  orFail mode.display >>= fun name => match tieOf? name with
    | none => .error (.refuseRounding mode)
    | some tie => orFail v.toDecimal >>= fun d => orFail (roundDecimal tie places d) >>= fun y =>
        .ok (.replaced (.float y))

theorem rounded_alike {f : Failure} (hv : v.Proper) (hn : Sizing.Within v n .round)
    (h : rounded v mode n = .error f) : rounded v mode (-1) = .error f := by
  refine bind_error_alike h fun name _ h => ?_
  cases htie : tieOf? name with
  | none =>
      rw [htie] at h
      exact h
  | some tie =>
      rw [htie] at h
      refine bind_error_alike h fun d hd h => ?_
      cases hdecimal : v.toDecimal with
      | error g =>
          rw [hdecimal] at hd
          cases hd
      | ok d' =>
          rw [hdecimal] at hd
          cases hd
          obtain ⟨y,hy⟩ := exists_roundDecimal_of_within hv hn hdecimal tie
          rw [hy] at h
          cases h

/-- To other places there is nothing that a finite number is rounded to. -/
theorem rounded_beyond (hn : ¬ Sizing.Within v n .round) : ∃ f, rounded v mode n = .error f ∧
    (rounded v mode (-1) = .error f ∨ ∃ g, f = .fault g) := by
  rw [Sizing.Within] at hn
  push Not at hn
  obtain ⟨x,hx,hfinite,hplaces⟩ := hn
  have hdecimal : v.toDecimal = .ok (Decimal.ofShortest x) := by rw [Value.toDecimal,hx]; rfl
  unfold rounded
  cases hmode : mode.display with
  | error g => exact ⟨.fault g,rfl,Or.inl rfl⟩
  | ok name =>
      dsimp only [orFail,Bind.bind,Except.bind]
      cases htie : tieOf? name with
      | none => exact ⟨_,rfl,Or.inl rfl⟩
      | some tie =>
          obtain ⟨g,hg⟩ := roundDecimal_error hfinite tie hplaces
          refine ⟨.fault g,?_,Or.inr ⟨g,rfl⟩⟩
          rw [hdecimal]
          dsimp only
          rw [hg]

theorem asRound_staged (hv : v.Proper) (hlen : b.given.length = 2) :
    Staged (fun a => asRound.run v (boundAt b 0 a)) "asRound"
      fun n => Sizing.Within v n .round := by
  obtain ⟨precision,mode,hb⟩ := List.length_eq_two.mp hlen
  refine ⟨Unit,.ok (),fun _ n => rounded v mode n,fun a => ?_,
    fun _ _ _ hn h => rounded_alike hv hn h,fun _ _ hn => rounded_beyond hn⟩
  simp only [asRound,boundAt,hb]
  rfl

/-- All of these rules run in stages. -/
theorem staged (hv : v.Proper) {k : Sizing} {j : Nat}
    (hlen : b.given.length = k.rule.signature.parameters.length) (hj : j ∈ k.places) :
    Staged (fun a => k.rule.run v (boundAt b j a)) k.refuser fun n => k.Within v n := by
  cases k with
  | lbetween =>
      rcases List.mem_pair.mp hj with rfl | rfl
      · exact lbetween_low_staged v hlen
      · exact lbetween_high_staged v hlen
  | lgt =>
      cases List.mem_singleton.mp hj
      exact sized_staged "lgt" (fun size limit => limit < size) v hlen
  | lgte =>
      cases List.mem_singleton.mp hj
      exact sized_staged "lgte" (fun size limit => limit ≤ size) v hlen
  | llt =>
      cases List.mem_singleton.mp hj
      exact sized_staged "llt" (fun size limit => size < limit) v hlen
  | llte =>
      cases List.mem_singleton.mp hj
      exact sized_staged "llte" (fun size limit => size ≤ limit) v hlen
  | truncate =>
      cases List.mem_singleton.mp hj
      obtain ⟨size,ending,hb⟩ := List.length_eq_two.mp hlen
      have hrun : (fun a => asTruncate.run v (boundAt b 0 a)) = fun a => truncated v a ending := by
        funext a
        simp only [asTruncate,boundAt,hb]
        rfl
      rw [Sizing.rule,hrun]
      exact truncated_staged v ending
  | limit =>
      cases List.mem_singleton.mp hj
      obtain ⟨size,hb⟩ := List.length_eq_one_iff.mp hlen
      have hrun : (fun a => asLimit.run v (boundAt b 0 a)) =
          fun a => truncated v a (.text "") := by
        funext a
        simp only [asLimit,boundAt,hb]
        rfl
      rw [Sizing.rule,hrun]
      exact truncated_staged v _
  | replace =>
      cases List.mem_singleton.mp hj
      exact asPregReplace_staged v hlen
  | round =>
      cases List.mem_singleton.mp hj
      exact asRound_staged hv hlen

end

end Vetting.Rules
