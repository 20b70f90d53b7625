import Vetting.Proofs.Chain.Comparing
import Vetting.Proofs.Json.Overlong
import Vetting.Proofs.Value.Written

/-!
# JSON on chains

Where failures are collected, encoding and decoding settle every value: there is a new node with
the result, or a failed check if there is no result. What stands in the way of that is an
integer of too many digits, in the value or in its text, and a translator without words. Only
decoding can be stopped by an integer.
-/
namespace Vetting
variable {mail : Rules.MailReader}

namespace Rules

/-- The rules that go between values and JSON. -/
inductive Codec where
  | encode | decode

namespace Codec

def name : Codec → String
  | .encode => "asJsonEncode"
  | .decode => "asJsonDecode"

def rule : Codec → Rule
  | .encode => asJsonEncode
  | .decode => asJsonDecode

theorem get?_name (k : Codec) : (standard mail).get? k.name = some k.rule :=
  get?_of_listed (by cases k <;> simp [name,rule,transformers,validators])

/-- What is made of a value. -/
def made (v : Value) : Codec → Option Value
  | .encode => (Json.encode? v).map .text
  | .decode => v.toText.toOption.bind fun s => (Json.decode s).toOption

/-- There is no text to decode, or an integer of too many digits is met in it. -/
def Stuck (v : Value) : Codec → Prop
  | .encode => False
  | .decode => v.Unwritable ∨ ∃ s, v.toText = .ok s ∧ Json.decode s = .error .tooManyDigits

section
variable {k : Codec} {v : Value} {b : Bound}

theorem Stuck.cause (h : k.Stuck v) : k = .decode ∧
    (v.Unwritable ∨ ∃ s, v.toText = .ok s ∧ Json.Overlong s.toList) := by
  cases k with
  | encode => cases h
  | decode =>
      refine ⟨rfl,h.imp_right ?_⟩
      rintro ⟨s,hs,hlong⟩
      exact ⟨s,hs,Json.overlong_of_decode hlong⟩

/-- A rule is stuck, or it has a result, or it fails under its own name. -/
theorem run_cases (hv : v.Proper) (hb : b.given = []) :
    (k.Stuck v ∧ ∃ f, k.rule.run v b = .error (.fault f)) ∨
      ¬ k.Stuck v ∧ ((∃ u, k.made v = some u ∧ k.rule.run v b = .ok (.replaced u)) ∨
        k.made v = none ∧ k.rule.run v b = .ok (failedUnder k.name)) := by
  cases k with
  | encode =>
      refine Or.inr ⟨not_false,?_⟩
      simp only [made,rule,asJsonEncode,hb,name]
      cases Json.encode? v with
      | none => exact Or.inr ⟨rfl,rfl⟩
      | some s => exact Or.inl ⟨.text s,rfl,rfl⟩
  | decode =>
      have hwrites := (Value.toText_writes hv).exists_iff
      simp only [made,rule,asJsonDecode,hb,name,Stuck]
      cases htext : v.toText with
      | error f => exact Or.inl ⟨Or.inl (hwrites.1.mp ⟨f,htext⟩),f,rfl⟩
      | ok s =>
          have hgood := hwrites.2.mp ⟨s,htext⟩
          dsimp only [orFail,Bind.bind,Except.bind,Except.toOption,Option.bind]
          cases hdecode : Json.decode s with
          | ok u =>
              refine Or.inr ⟨?_,Or.inl ⟨u,rfl,rfl⟩⟩
              rintro (h | ⟨t,⟨⟩,h⟩)
              · exact hgood h
              · cases hdecode.symm.trans h
          | error e =>
              cases e with
              | tooManyDigits => exact Or.inl ⟨Or.inr ⟨s,rfl,hdecode⟩,_,rfl⟩
              | malformed =>
                  refine Or.inr ⟨?_,Or.inr ⟨rfl,rfl⟩⟩
                  rintro (h | ⟨t,⟨⟩,h⟩)
                  · exact hgood h
                  · cases hdecode.symm.trans h

end

end Codec

end Rules

namespace Run
variable {σ : Setting} {w : World} {i : Nat} {args : List Value} {byName : Named Value}
  {k : Rules.Codec} {b : Bound}

/-- A rule has made a new node with the result, or left a check that has failed under its name
where there is none. -/
def Settled (σ : Setting) (w : World) (i : Nat) (k : Rules.Codec)
    (r : Except Failure Nat × World) : Prop :=
  (∃ u, k.made (w.value i) = some u ∧ (Effect.replaced u).Left w i r) ∨
    k.made (w.value i) = none ∧
      ∃ c, w.FailsUnder σ i k.name c ∧ (Effect.checked c).Left w i r

/-- Where there is no result, a value is settled by any check that the failure leaves. -/
theorem settled_failed_iff {r : Except Failure Nat × World}
    (hr : r = (conclude σ i (.verdict false .null k.name [])).exec w)
    (hnone : k.made (w.value i) = none) :
    Settled σ w i k r ↔ ∃ c, (Effect.checked c).Left w i r := by
  subst hr
  constructor
  · rintro (⟨u,hu,-⟩ | ⟨-,c,-,hc⟩)
    · rw [hnone] at hu
      cases hu
    · exact ⟨c,hc⟩
  · rintro ⟨c,hc⟩
    rcases verdict_left σ w i false .null k.name [] with ⟨⟨f,hf⟩,-⟩ | ⟨d,hd,hfailed⟩
    · cases hc.1.symm.trans hf
    · exact Or.inr ⟨hnone,d,hfailed rfl,hd⟩

/-- Encoding and decoding settle a value unless an integer of too many digits is met, or there
are no words for the failure. They are refused otherwise. -/
theorem codecs_settle_iff (hreg : σ.registry = Rules.standard mail) (hearly : σ.throwEarly = false)
    (hv : (w.value i).Proper) (hb : k.rule.signature.bind args byName = .ok b) :
    let r := (apply σ i k.name args byName).exec w
    (Settled σ w i k r ↔ ¬ k.Stuck (w.value i) ∧ (k.made (w.value i) = none →
        ∃ s, (failureCall w i .null k.name []).wording? σ.translator = some s)) ∧
      (¬ Settled σ w i k r → Effect.refused.Left w i r) ∧
      (k.Stuck (w.value i) → k = .decode ∧ ((w.value i).Unwritable ∨
        ∃ s, (w.value i).toText = .ok s ∧ Json.Overlong s.toList)) := by
  intro r
  have hrule : σ.registry.get? k.name = some k.rule := by rw [hreg,k.get?_name]
  have hopen : ∀ n ∈ k.rule.signature.openNames, n ∉ reservedNames := by
    cases k <;> decide
  have hgiven : b.given = [] := by
    have hlen := Signature.length_of_bindAll (Signature.bindAll_of_bind hb).1
    cases k <;> exact List.eq_nil_of_length_eq_zero hlen
  have hr : r = (ofExcept (k.rule.run (w.value i) b) >>= conclude σ i).exec w :=
    exec_apply_of_bind hrule hopen hb
  rw [← and_assoc]
  refine ⟨?_,Rules.Codec.Stuck.cause⟩
  rcases Rules.Codec.run_cases hv hgiven with ⟨hstuck,f,hrun⟩ | ⟨hgood,⟨u,hu,hrun⟩ | ⟨hnone,hrun⟩⟩
  · have hrefused : r = (.error (.fault f),w) := by rw [hr,hrun]; rfl
    have hnot : ¬ Settled σ w i k r := by
      rw [hrefused]
      rintro (⟨u,-,hu⟩ | ⟨-,c,-,hc⟩)
      · cases hu.1
      · cases hc.1
    refine ⟨iff_of_false hnot fun h => h.1 hstuck,fun _ => ?_⟩
    rw [hrefused]
    exact refused_left rfl rfl
  · have hleft : (Effect.replaced u).Left w i r := by
      rw [hr,hrun]
      exact derive_left i u w
    have hsettled : Settled σ w i k r := Or.inl ⟨u,hu,hleft⟩
    refine ⟨iff_of_true hsettled ⟨hgood,fun hnone => ?_⟩,fun h => absurd hsettled h⟩
    rw [hu] at hnone
    cases hnone
  · have hconclude : r = (conclude σ i (.verdict false .null k.name [])).exec w := by
      rw [hr,hrun]
      rfl
    have hleft := verdict_left σ w i false .null k.name []
    have hchecked := settled_failed_iff hconclude hnone
    have hwords := conclude_verdict_iff (w := w) (i := i) hearly false .null k.name []
    rw [← hconclude] at hleft hwords
    refine ⟨?_,fun h => hleft.resolve_right ?_⟩
    · rw [hchecked,hwords,and_iff_right hgood]
      exact ⟨fun h _ => h rfl,fun h _ => h hnone⟩
    · rintro ⟨c,hc,-⟩
      exact h (hchecked.mpr ⟨c,hc⟩)

/-- A list without its end fails as a check. -/
theorem codecs_settle_iff_open :
    let σ : Setting := ⟨Rules.standard .none,.standard,false⟩
    let w := ((seed (.text "[1") none false).exec .empty).2
    ∃ m, (Effect.checked (.failed m)).Left w 0 ((apply σ 0 "asJsonDecode" [] []).exec w) := by
  intro σ w
  have hvalue : w.value 0 = .text "[1" := rfl
  have hmalformed : Json.decode "[1" = .error .malformed := rfl
  have hgood : ¬ Rules.Codec.decode.Stuck (w.value 0) := by
    rw [hvalue]
    rintro (h | ⟨t,⟨⟩,h⟩)
    · exact Value.not_unwritable (v := .text "[1") rfl nofun h
    · cases hmalformed.symm.trans h
  have hb : Rules.asJsonDecode.signature.bind [] [] = .ok ⟨[],[],[]⟩ := rfl
  obtain ⟨hiff,-⟩ := codecs_settle_iff (σ := σ) (w := w) (i := 0) (k := .decode) rfl rfl
    (fun x hx => nomatch hvalue.symm.trans hx) hb
  rcases hiff.mpr ⟨hgood,fun _ => ⟨"must be valid JSON",by decide +kernel⟩⟩ with
    ⟨u,hu,-⟩ | ⟨-,c,⟨s,-,rfl⟩,hc⟩
  · cases hu
  · exact ⟨_,hc⟩

theorem apply_decode_of_tooManyDigits {s : String} (hreg : σ.registry = Rules.standard mail)
    (hvalue : w.value i = .text s) (h : Json.decode s = .error .tooManyDigits) :
    (apply σ i "asJsonDecode" [] []).exec w = (.error (.fault .badValue),w) := by
  have hrule : σ.registry.get? "asJsonDecode" = some Rules.asJsonDecode := by
    rw [hreg]
    exact Rules.Codec.get?_name .decode
  have hb : Rules.asJsonDecode.signature.bind [] [] = .ok ⟨[],[],[]⟩ := rfl
  have hrun : Rules.asJsonDecode.run (.text s) ⟨[],[],[]⟩ = .error (.fault .badValue) := by
    have htext : (Value.text s).toText = .ok s := rfl
    simp only [Rules.asJsonDecode,htext]
    dsimp only [orFail,Bind.bind,Except.bind]
    rw [h]
  rw [exec_apply_of_bind hrule nofun hb,hvalue,hrun]
  rfl

/-- An integer of 4301 digits is no failed check. -/
theorem long_integer_not_settled :
    let σ : Setting := ⟨Rules.standard .none,.standard,false⟩
    let w := ((seed (.text (String.ofList (List.replicate 4301 '1'))) none false).exec .empty).2
    let r := (apply σ 0 "asJsonDecode" [] []).exec w
    r.1 = .error (.fault .badValue) ∧ ¬ Settled σ w 0 .decode r := by
  have hlong := Json.decode_replicate (n := 4301) (by decide)
  generalize String.ofList (List.replicate 4301 '1') = s at hlong ⊢
  intro σ w r
  have hr : r = (.error (.fault .badValue),w) := apply_decode_of_tooManyDigits rfl rfl hlong
  rw [hr]
  refine ⟨rfl,?_⟩
  rintro (⟨u,-,hu⟩ | ⟨-,c,-,hc⟩)
  · cases hu.1
  · cases hc.1

end Run

end Vetting
