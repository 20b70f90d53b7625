import Vetting.Proofs.Rules.Contract

/-!
# Rules leave judgements to chains

That a check has failed, or that a value is invalid in the end, is for a chain to say. A
rule may refuse its value or its arguments, but never in the words of a chain: it runs into
a fault, or it finds fault with an argument. This is shown for each family of rules, and
read off the table of the standard rules.
-/
namespace Vetting
variable {α β : Type}
variable {mail : Rules.MailReader}

/-- A failing check that is thrown, or the refusal of an invalid chain. -/
def Failure.IsJudgement : Failure → Prop
  | .failedCheck .. => True
  | .invalid .. => True
  | _ => False

/-- Whatever goes wrong, it is no judgement. -/
def Reserved (x : Except Failure α) : Prop := ∀ f, x = .error f → ¬ f.IsJudgement

namespace Reserved

theorem ok (a : α) : Reserved (.ok a : Except Failure α) := nofun

theorem error {f : Failure} (h : ¬ f.IsJudgement) : Reserved (.error f : Except Failure α) := by
  intro g hg
  rw [← Except.error.inj hg]
  exact h

theorem fault (f : Fault) : Reserved (.error (.fault f) : Except Failure α) :=
  error id

theorem unbound : Reserved (misbound : Except Failure α) := fault .wrongKind

theorem orFail (x : Except Fault α) : Reserved (orFail x) := by
  cases x with
  | error f => exact fault f
  | ok a => exact ok a

theorem bind {x : Except Failure α} {f : α → Except Failure β} (hx : Reserved x)
    (hf : ∀ a, Reserved (f a)) : Reserved (x >>= f) := by
  cases x with
  | error e => exact error (hx e rfl)
  | ok a => exact hf a

theorem orFail_bind {x : Except Fault α} {f : α → Except Failure β}
    (hf : ∀ a, Reserved (f a)) : Reserved (Vetting.orFail x >>= f) :=
  bind (orFail x) hf

end Reserved

def Rule.Reserved (r : Rule) : Prop := ∀ v b, Vetting.Reserved (r.run v b)

def Registry.Reserved (ρ : Registry Rule) : Prop :=
  ∀ name r, ρ.get? name = some r → r.Reserved

theorem Rule.Reserved.call {r : Rule} (h : r.Reserved) (v : Value) (args : List Value)
    (byName : Named Value) : Vetting.Reserved (r.call v args byName) :=
  .orFail_bind fun b => h v b

namespace Rules
open Vetting.Reserved

theorem intArgument_reserved (rule : String) (v : Value) :
    Vetting.Reserved (intArgument rule v) := by
  apply orFail_bind
  intro n
  cases n with
  | some n => exact ok n
  | none =>
      apply error
      unfold Failure.refuseInteger
      split
      · exact id
      · exact id

theorem plainRule_reserved (name : String) (passes : Value → Bool) :
    (plainRule name passes).Reserved := by
  intro v b
  dsimp only [plainRule]
  split
  · exact ok _
  · exact unbound

theorem ordered_reserved (name : String) (accepted : List Int) :
    (ordered name accepted).Reserved := by
  intro v b
  dsimp only [ordered]
  split
  · exact orFail_bind fun _ => ok _
  · exact unbound

theorem eq_reserved : eq.Reserved := by
  intro v b
  dsimp only [eq]
  split
  · exact orFail_bind fun _ => ok _
  · exact unbound

theorem seq_reserved : seq.Reserved := by
  intro v b
  dsimp only [seq]
  split
  · exact orFail_bind fun _ => ok _
  · exact unbound

theorem between_reserved : between.Reserved := by
  intro v b
  dsimp only [between]
  split
  · exact orFail_bind fun _ => ok _
  · exact unbound

theorem isIn_reserved : isIn.Reserved := by
  intro v b
  dsimp only [isIn]
  split
  · exact orFail_bind fun _ => orFail_bind fun _ => ok _
  · exact unbound

theorem sized_reserved (name : String) (accepts : Int → Int → Bool) :
    (sized name accepts).Reserved := by
  intro v b
  dsimp only [sized]
  split
  · exact bind (intArgument_reserved _ _) fun _ => orFail_bind fun _ => ok _
  · exact unbound

theorem lbetween_reserved : lbetween.Reserved := by
  intro v b
  dsimp only [lbetween]
  split
  · apply orFail_bind
    intro size
    exact bind (intArgument_reserved _ _) fun _ => bind (intArgument_reserved _ _) fun _ => ok _
  · exact unbound

theorem digits_reserved : digits.Reserved := by
  intro v b
  dsimp only [digits]
  split
  · exact orFail_bind fun _ => ok _
  · exact unbound

theorem lettered_reserved (name : String) (letters : List Char) :
    (lettered name letters).Reserved := by
  intro v b
  dsimp only [lettered]
  split
  · exact orFail_bind fun _ => orFail_bind fun _ => ok _
  · exact unbound

theorem textRule_reserved (name : String) (f : List Char → List Char) :
    (textRule name f).Reserved := by
  intro v b
  dsimp only [textRule]
  split
  · exact orFail_bind fun _ => ok _
  · exact unbound

theorem asExtract_reserved : asExtract.Reserved := by
  intro v b
  dsimp only [asExtract]
  split
  · exact orFail_bind fun _ => orFail_bind fun _ => orFail_bind fun _ => ok _
  · exact unbound

theorem asDigits_reserved : asDigits.Reserved := by
  intro v b
  dsimp only [asDigits]
  split
  · exact orFail_bind fun _ => orFail_bind fun _ => ok _
  · exact unbound

theorem truncated_reserved (v size ending : Value) :
    Vetting.Reserved (truncated v size ending) := by
  apply orFail_bind
  intro s
  apply bind (intArgument_reserved _ _)
  intro n
  split
  · exact ok _
  · split
    · exact unbound
    · exact ok _

theorem asTruncate_reserved : asTruncate.Reserved := by
  intro v b
  dsimp only [asTruncate]
  split
  · exact truncated_reserved _ _ _
  · exact unbound

theorem asLimit_reserved : asLimit.Reserved := by
  intro v b
  dsimp only [asLimit]
  split
  · exact truncated_reserved _ _ _
  · exact unbound

theorem asReplace_reserved : asReplace.Reserved := by
  intro v b
  dsimp only [asReplace]
  split
  · apply orFail_bind
    intro s
    split
    · exact ok _
    · exact unbound
  · exact unbound

theorem asPregReplace_reserved : asPregReplace.Reserved := by
  intro v b
  dsimp only [asPregReplace]
  split
  · apply bind (intArgument_reserved _ _)
    intro n
    exact orFail_bind fun _ => orFail_bind fun _ => ok _
  · exact unbound

theorem asJsonEncode_reserved : asJsonEncode.Reserved := by
  intro v b
  dsimp only [asJsonEncode]
  split
  · split
    · exact ok _
    · exact ok _
  · exact unbound

theorem asJsonDecode_reserved : asJsonDecode.Reserved := by
  intro v b
  dsimp only [asJsonDecode]
  split
  · apply orFail_bind
    intro s
    split
    · exact ok _
    · exact ok _
    · exact fault _
  · exact unbound

theorem asRound_reserved : asRound.Reserved := by
  intro v b
  dsimp only [asRound]
  split
  · apply bind (intArgument_reserved _ _)
    intro places
    apply orFail_bind
    intro name
    split
    · apply error
      unfold Failure.refuseRounding
      split
      · exact id
      · exact id
    · exact orFail_bind fun _ => orFail_bind fun _ => ok _
  · exact unbound

theorem integralRule_reserved (name : String) (f : Number.Binary64 → Int) :
    (integralRule name f).Reserved := by
  intro v b
  dsimp only [integralRule]
  split
  · exact orFail_bind fun _ => ok _
  · exact unbound

theorem asDecimal_reserved : asDecimal.Reserved := by
  intro v b
  apply orFail_bind
  intro s
  apply orFail_bind
  intro t
  split
  · exact ok _
  · exact ok _

theorem asCardNumber_reserved : asCardNumber.Reserved := by
  intro v b
  dsimp only [asCardNumber]
  split
  · apply orFail_bind
    intro s
    split
    · exact ok _
    · exact ok _
  · exact unbound

theorem taxpayerRule_reserved (name : String) (read : List Char → Option (List Char))
    (write : List Char → List Char) : (taxpayerRule name read write).Reserved := by
  intro v b
  dsimp only [taxpayerRule]
  split
  · apply orFail_bind
    intro s
    split
    · exact ok _
    · exact ok _
  · exact unbound

theorem transformers_reserved : ∀ e ∈ transformers, e.2.2.Reserved := by
  simp only [transformers,List.forall_mem_cons]
  exact ⟨textRule_reserved _ _,textRule_reserved _ _,textRule_reserved _ _,asExtract_reserved,
    asDigits_reserved,asTruncate_reserved,asLimit_reserved,asReplace_reserved,
    asPregReplace_reserved,asJsonEncode_reserved,asJsonDecode_reserved,asRound_reserved,
    integralRule_reserved _ _,integralRule_reserved _ _,asDecimal_reserved,
    asCardNumber_reserved,taxpayerRule_reserved _ _ _,taxpayerRule_reserved _ _ _,
    List.forall_mem_nil _⟩

theorem validators_reserved : ∀ e ∈ validators mail, e.2.2.Reserved := by
  have hplain := plainRule_reserved
  simp only [validators,List.forall_mem_cons]
  exact ⟨eq_reserved,seq_reserved,between_reserved,ordered_reserved _ _,ordered_reserved _ _,
    ordered_reserved _ _,ordered_reserved _ _,isIn_reserved,lbetween_reserved,
    sized_reserved _ _,sized_reserved _ _,sized_reserved _ _,sized_reserved _ _,hplain _ _,
    hplain _ _,hplain _ _,hplain _ _,hplain _ _,hplain _ _,hplain _ _,hplain _ _,hplain _ _,
    hplain _ _,hplain _ _,hplain _ _,hplain _ _,hplain _ _,hplain _ _,digits_reserved,
    lettered_reserved _ _,lettered_reserved _ _,hplain _ _,hplain _ _,hplain _ _,
    List.forall_mem_nil _⟩

theorem standard_reserved (mail : MailReader) : (standard mail).Reserved := by
  intro name r h
  obtain ⟨e,he,-,rfl⟩ := exists_entry h
  cases List.mem_append.mp he with
  | inl ht => exact transformers_reserved e ht
  | inr hv => exact validators_reserved e hv

end Rules

end Vetting
