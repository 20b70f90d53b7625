import Mathlib.Data.List.Nodup
import Mathlib.Data.List.Pairwise
import Vetting.Proofs.Rules.Discreet

/-!
# What the standard rules come to

Every rule may refuse a value or its arguments. Otherwise a rule that judges comes to a
verdict, and a rule that makes new values comes to a new value or fails under its own
name. This is shown for each family of rules, and read off the table of the standard
rules for every name that they go by.
-/
namespace Vetting
variable {mail : Rules.MailReader}

namespace Outcome

def Judges : Outcome → Prop
  | .verdict _ _ _ _ => True
  | .replaced _ => False

/-- A new value, or a failure under a name. -/
def Makes (name : String) (o : Outcome) : Prop :=
  (∃ v, o = .replaced v) ∨ o = Rules.failedUnder name

end Outcome

/-- Outcomes are of some kind. A refusal is no outcome. -/
def Yields (P : Outcome → Prop) (x : Except Failure Outcome) : Prop := ∀ o, x = .ok o → P o

namespace Yields
variable {α : Type} {P : Outcome → Prop} {name : String}

theorem ok {o : Outcome} (h : P o) : Yields P (.ok o) := by
  rintro _ ⟨⟩
  exact h

theorem error (f : Failure) : Yields P (.error f) := fun _ h => nomatch h

theorem unbound : Yields P misbound := error _

theorem bind {x : Except Failure α} {f : α → Except Failure Outcome}
    (h : ∀ a, Yields P (f a)) : Yields P (x >>= f) := by
  cases x with
  | error e => exact error e
  | ok a => exact h a

theorem verdict {passed : Bool} {message : Value} {rule : String} {fields : Named Value} :
    Yields Outcome.Judges (.ok (.verdict passed message rule fields)) :=
  ok trivial

theorem replaced {v : Value} : Yields (Outcome.Makes name) (.ok (.replaced v)) :=
  ok (Or.inl ⟨v,rfl⟩)

theorem failed : Yields (Outcome.Makes name) (.ok (Rules.failedUnder name)) := ok (Or.inr rfl)

end Yields

/-- A rule whose outcomes are of some kind, for all values and arguments. -/
def Rule.Yields (P : Outcome → Prop) (r : Rule) : Prop := ∀ v b, Vetting.Yields P (r.run v b)

theorem Rule.Yields.call {P : Outcome → Prop} {r : Rule} (h : r.Yields P) (v : Value)
    (args : List Value) (byName : Named Value) : Vetting.Yields P (r.call v args byName) :=
  .bind fun b => h v b

namespace Rules
open Vetting.Yields Outcome

theorem plainRule_judges (name : String) (passes : Value → Bool) :
    (plainRule name passes).Yields Judges := by
  rintro v ⟨_ | _,_,_⟩
  · exact verdict
  · exact unbound

theorem ordered_judges (name : String) (accepted : List Int) :
    (ordered name accepted).Yields Judges := by
  rintro v ⟨_ | ⟨x,_ | ⟨message,_ | _⟩⟩,_,_⟩
  · exact unbound
  · exact unbound
  · exact bind fun _ => verdict
  · exact unbound

theorem eq_judges : eq.Yields Judges := by
  rintro v ⟨_ | ⟨x,_ | ⟨message,_ | _⟩⟩,_,_⟩
  · exact unbound
  · exact unbound
  · exact bind fun _ => verdict
  · exact unbound

theorem seq_judges : seq.Yields Judges := by
  rintro v ⟨_ | ⟨x,_ | ⟨message,_ | _⟩⟩,_,_⟩
  · exact unbound
  · exact unbound
  · exact bind fun _ => verdict
  · exact unbound

theorem between_judges : between.Yields Judges := by
  rintro v ⟨_ | ⟨x,_ | ⟨y,_ | ⟨message,_ | _⟩⟩⟩,_,_⟩
  · exact unbound
  · exact unbound
  · exact unbound
  · exact bind fun _ => verdict
  · exact unbound

theorem isIn_judges : isIn.Yields Judges := by
  rintro v ⟨_,rest,_ | ⟨strict,_ | _⟩⟩
  · exact unbound
  · exact bind fun _ => bind fun _ => verdict
  · exact unbound

theorem sized_judges (name : String) (accepts : Int → Int → Bool) :
    (sized name accepts).Yields Judges := by
  rintro v ⟨_ | ⟨x,_ | ⟨message,_ | _⟩⟩,_,_⟩
  · exact unbound
  · exact unbound
  · exact bind fun _ => bind fun _ => verdict
  · exact unbound

theorem lbetween_judges : lbetween.Yields Judges := by
  rintro v ⟨_ | ⟨x,_ | ⟨y,_ | ⟨message,_ | _⟩⟩⟩,_,_⟩
  · exact unbound
  · exact unbound
  · exact unbound
  · exact bind fun _ => bind fun _ => bind fun _ => verdict
  · exact unbound

theorem digits_judges : digits.Yields Judges := by
  rintro v ⟨_ | _,_,_⟩
  · exact bind fun _ => verdict
  · exact unbound

theorem lettered_judges (name : String) (letters : List Char) :
    (lettered name letters).Yields Judges := by
  rintro v ⟨_ | ⟨including,_ | _⟩,_,_⟩
  · exact unbound
  · exact bind fun _ => bind fun _ => verdict
  · exact unbound

theorem textRule_makes (name : String) (f : List Char → List Char) :
    (textRule name f).Yields (Makes name) := by
  rintro v ⟨_ | _,_,_⟩
  · exact bind fun _ => replaced
  · exact unbound

theorem asExtract_makes : asExtract.Yields (Makes "asExtract") := by
  rintro v ⟨_ | ⟨k,_ | _⟩,_,_⟩
  · exact unbound
  · exact bind fun _ => bind fun _ => bind fun _ => replaced
  · exact unbound

theorem asDigits_makes : asDigits.Yields (Makes "asDigits") := by
  rintro v ⟨_ | _,_,_⟩
  · exact bind fun _ => bind fun _ => replaced
  · exact unbound

theorem truncated_makes (name : String) (v size ending : Value) :
    Vetting.Yields (Makes name) (truncated v size ending) := by
  refine bind fun s => bind fun n => ?_
  split
  · exact replaced
  · split
    · exact unbound
    · exact replaced

theorem asTruncate_makes : asTruncate.Yields (Makes "asTruncate") := by
  rintro v ⟨_ | ⟨size,_ | ⟨ending,_ | _⟩⟩,_,_⟩
  · exact unbound
  · exact unbound
  · exact truncated_makes _ v size ending
  · exact unbound

theorem asLimit_makes : asLimit.Yields (Makes "asLimit") := by
  rintro v ⟨_ | ⟨size,_ | _⟩,_,_⟩
  · exact unbound
  · exact truncated_makes _ v size (.text "")
  · exact unbound

theorem asReplace_makes : asReplace.Yields (Makes "asReplace") := by
  rintro v ⟨_ | ⟨x,_ | ⟨y,_ | _⟩⟩,_,_⟩
  · exact unbound
  · exact unbound
  · refine bind fun s => ?_
    split
    · exact replaced
    · exact unbound
  · exact unbound

theorem asPregReplace_makes : asPregReplace.Yields (Makes "asPregReplace") := by
  rintro v ⟨_ | ⟨pattern,_ | ⟨replacement,_ | ⟨limit,_ | _⟩⟩⟩,_,_⟩
  · exact unbound
  · exact unbound
  · exact unbound
  · exact bind fun _ => bind fun _ => bind fun _ => replaced
  · exact unbound

theorem asJsonEncode_makes : asJsonEncode.Yields (Makes "asJsonEncode") := by
  rintro v ⟨_ | _,_,_⟩
  · dsimp only [asJsonEncode]
    split
    · exact replaced
    · exact failed
  · exact unbound

theorem asJsonDecode_makes : asJsonDecode.Yields (Makes "asJsonDecode") := by
  rintro v ⟨_ | _,_,_⟩
  · refine bind fun s => ?_
    split
    · exact replaced
    · exact failed
    · exact error _
  · exact unbound

theorem asRound_makes : asRound.Yields (Makes "asRound") := by
  rintro v ⟨_ | ⟨precision,_ | ⟨mode,_ | _⟩⟩,_,_⟩
  · exact unbound
  · exact unbound
  · refine bind fun places => bind fun name => ?_
    split
    · exact error _
    · exact bind fun _ => bind fun _ => replaced
  · exact unbound

theorem integralRule_makes (name : String) (f : Number.Binary64 → Int) :
    (integralRule name f).Yields (Makes name) := by
  rintro v ⟨_ | _,_,_⟩
  · exact bind fun _ => replaced
  · exact unbound

theorem asDecimal_makes : asDecimal.Yields (Makes "asDecimal") := by
  rintro v ⟨_,rest,_⟩
  refine bind fun s => bind fun t => ?_
  split
  · exact replaced
  · exact failed

theorem asCardNumber_makes : asCardNumber.Yields (Makes "asCardNumber") := by
  rintro v ⟨_ | _,_,_⟩
  · refine bind fun s => ?_
    split
    · exact replaced
    · exact failed
  · exact unbound

theorem taxpayerRule_makes (name : String) (read : List Char → Option (List Char))
    (write : List Char → List Char) : (taxpayerRule name read write).Yields (Makes name) := by
  rintro v ⟨_ | ⟨formatted,_ | _⟩,_,_⟩
  · exact unbound
  · refine bind fun s => ?_
    split
    · exact replaced
    · exact failed
  · exact unbound

theorem transformers_make : ∀ e ∈ transformers, e.2.2.Yields (Makes e.1) := by
  simp only [transformers,List.forall_mem_cons]
  exact ⟨textRule_makes _ _,textRule_makes _ _,textRule_makes _ _,asExtract_makes,
    asDigits_makes,asTruncate_makes,asLimit_makes,asReplace_makes,asPregReplace_makes,
    asJsonEncode_makes,asJsonDecode_makes,asRound_makes,integralRule_makes _ _,
    integralRule_makes _ _,asDecimal_makes,asCardNumber_makes,taxpayerRule_makes _ _ _,
    taxpayerRule_makes _ _ _,List.forall_mem_nil _⟩

theorem validators_judge : ∀ e ∈ validators mail, e.2.2.Yields Judges := by
  have hplain := plainRule_judges
  simp only [validators,List.forall_mem_cons]
  exact ⟨eq_judges,seq_judges,between_judges,ordered_judges _ _,ordered_judges _ _,
    ordered_judges _ _,ordered_judges _ _,isIn_judges,lbetween_judges,sized_judges _ _,
    sized_judges _ _,sized_judges _ _,sized_judges _ _,hplain _ _,hplain _ _,hplain _ _,
    hplain _ _,hplain _ _,hplain _ _,hplain _ _,hplain _ _,hplain _ _,hplain _ _,hplain _ _,
    hplain _ _,hplain _ _,hplain _ _,hplain _ _,digits_judges,lettered_judges _ _,
    lettered_judges _ _,hplain _ _,hplain _ _,hplain _ _,List.forall_mem_nil _⟩

/-- What has been registered under a name stands there, or what came after it. -/
theorem contains_registerAll {rules : List (String × List String × Rule)} {r : Registry Rule}
    {e : String × List String × Rule} {name : String} (he : e ∈ rules)
    (hn : name ∈ e.1 :: e.2.1) : ((registerAll r rules).get? name).isSome = true := by
  have hkeep : ∀ (later : List (String × List String × Rule)) (r : Registry Rule),
      (r.get? name).isSome = true → ((registerAll r later).get? name).isSome = true := by
    intro later
    induction later with
    | nil => exact fun _ h => h
    | cons d later ih =>
        intro r h
        refine ih _ ?_
        rw [Registry.get?_register]
        split
        · rfl
        · exact h
  obtain ⟨before,after,rfl⟩ := List.append_of_mem he
  rw [registerAll,List.foldl_append,List.foldl_cons]
  refine hkeep after _ ?_
  rw [Registry.get?_register,if_pos hn]
  rfl

/-- What stands under a name is the rule of an entry that goes by the name. -/
theorem exists_entry {name : String} {r : Rule} (h : (standard mail).get? name = some r) :
    ∃ e ∈ transformers ++ validators mail, name ∈ e.1 :: e.2.1 ∧ e.2.2 = r := by
  rcases get?_registerAll h with hr | he
  · cases hr
  · exact he

/-- The names of the rules do not depend on who reads mail addresses. -/
theorem nodup_names (mail : MailReader) :
    ((transformers ++ validators mail).flatMap fun e => e.1 :: e.2.1).Nodup := by
  have hnames : (transformers ++ validators mail).flatMap (fun e => e.1 :: e.2.1) =
      (transformers ++ validators .none).flatMap fun e => e.1 :: e.2.1 := rfl
  rw [hnames]
  decide

/-- No two entries go by one name, so that each stands under all of its names. -/
theorem get?_of_entry {e : String × List String × Rule} {name : String}
    (he : e ∈ transformers ++ validators mail) (hn : name ∈ e.1 :: e.2.1) :
    (standard mail).get? name = some e.2.2 := by
  have hsome : ((standard mail).get? name).isSome = true := contains_registerAll he hn
  obtain ⟨r,hr⟩ := Option.isSome_iff_exists.mp hsome
  obtain ⟨d,hd,hnd,rfl⟩ := exists_entry hr
  have hdisjoint := (List.nodup_flatMap.mp (nodup_names mail)).2
  have hsymm : Std.Symm (Function.onFun List.Disjoint
      fun e : String × List String × Rule => e.1 :: e.2.1) := ⟨fun _ _ h _ ha hb => h hb ha⟩
  have hed : e = d := by
    by_contra hne
    exact hdisjoint.forall he hd hne hn hnd
  rw [hed,hr]

theorem get?_of_listed {name : String} {rule : Rule}
    (h : ∃ aliases, (name,aliases,rule) ∈ transformers ++ validators mail) :
    (standard mail).get? name = some rule := by
  obtain ⟨aliases,he⟩ := h
  exact get?_of_entry he List.mem_cons_self

end Rules

end Vetting
