import Vetting.Proofs.Chain.Document
import Vetting.Proofs.Rules.DecimalText

/-!
# Decimal texts on chains

Whatever the separators are, a rule that makes a decimal text makes one with a point, of which
all other readers take the whole. The same rule with the usual separators leaves it as it is. To
begin with it accepts exactly the decimal texts with one of these separators.
-/
namespace Vetting
variable {mail : Rules.MailReader}

namespace Rules

section
variable {v u : Value} {args : List Value} {byName : Named Value} {s : List Char}

/-- A decimal text is made of what the separators have made of the text of the value. -/
theorem decimalForm_of_asDecimal (h : asDecimal.call v args byName = .ok (.replaced u)) :
    ∃ t, DecimalForm ['.'] t ∧ u = .text (String.ofList t) := by
  obtain ⟨b,-,h⟩ := exists_of_bind h
  obtain ⟨s,-,h⟩ := exists_of_bind h
  obtain ⟨t,-,h⟩ := exists_of_bind h
  split at h
  · rename_i hform
    cases h
    exact ⟨t,isDecimalText_iff.mp hform,rfl⟩
  · cases h

theorem asDecimal_call_default (v : Value) : asDecimal.call v [] [] = (orFail v.toText).map
    fun s => if isDecimalText (s.toList.map pointFor) then
      .replaced (.text (String.ofList (s.toList.map pointFor)))
    else failedUnder "asDecimal" := by
  have hcall : asDecimal.call v [] [] = (do
      let s ← orFail v.toText
      let t ← orFail (pointed [.text ",",.text "."] s.toList)
      if isDecimalText t then .ok (.replaced (.text (String.ofList t)))
      else .ok (failedUnder "asDecimal")) := rfl
  rw [hcall]
  cases v.toText with
  | error f => rfl
  | ok s =>
      simp only [pointed_default,orFail,Bind.bind,Except.bind,Except.map]
      split <;> rfl

theorem asDecimal_default_iff : asDecimal.call v [] [] = .ok (.replaced u) ↔
    ∃ t : String, v.toText = .ok t ∧ DecimalForm [',','.'] t.toList ∧
      u = .text (String.ofList (t.toList.map pointFor)) := by
  rw [asDecimal_call_default]
  cases v.toText with
  | error f =>
      refine iff_of_false nofun ?_
      rintro ⟨t,⟨⟩,-⟩
  | ok t =>
      simp only [orFail,Except.map,Except.ok.injEq,exists_eq_left']
      rw [← decimalForm_map_pointFor_iff,← isDecimalText_iff]
      split
      · rename_i hform
        simp [hform,eq_comm]
      · rename_i hform
        simp [hform,failedUnder]

theorem asDecimal_again (h : DecimalForm ['.'] s) :
    asDecimal.call (.text (String.ofList s)) [] [] =
      .ok (.replaced (.text (String.ofList s))) := by
  refine asDecimal_default_iff.mpr ⟨String.ofList s,rfl,?_,?_⟩
  · rw [String.toList_ofList,← decimalForm_map_pointFor_iff,map_pointFor_of_decimalForm h]
    exact h
  · rw [String.toList_ofList,map_pointFor_of_decimalForm h]

end

end Rules

namespace Run
open Rules Number
variable {σ : Setting} {w : World} {i : Nat} {name : String}

theorem replaced_of_call {rule : Rule} {args : List Value} {byName : Named Value} {u : Value}
    (hrule : σ.registry.get? name = some rule) (hnames : ∀ a ∈ byName, a.1 ∉ reservedNames)
    (h : rule.call (w.value i) args byName = .ok (.replaced u)) :
    (Effect.replaced u).Left w i ((apply σ i name args byName).exec w) := by
  rw [apply_eq hrule hnames,h]
  exact derive_left i u w

/-- What the rule makes of a value, whatever the separators, is a decimal text with a point. It
passes as numeric, and all of it is read as the one numeral that it is; the rule itself makes the
same of it, unless other separators are asked for. With the usual separators there is a new node
exactly for values with a decimal text in which a comma may stand for the point, and only this
has changed. -/
theorem decimals_readable (name : String) (hreg : σ.registry = standard mail)
    (hname : (standard mail).get? name = some asDecimal) (hi : i < w.nodes.size) :
    (∀ args byName u,
      let r := (apply σ i name args byName).exec w
      (Effect.replaced u).Left w i r → ∃ s n, u = .text s ∧ DecimalForm ['.'] s.toList ∧
        ReadWhole s n ∧ r.2.value w.nodes.size = u ∧
        (Effect.checked (.passed (.text "numeric"))).Left r.2 w.nodes.size
          ((apply σ w.nodes.size "numeric" [] []).exec r.2) ∧
        (Effect.replaced u).Left r.2 w.nodes.size
          ((apply σ w.nodes.size name [] []).exec r.2)) ∧
      ∀ u, (Effect.replaced u).Left w i ((apply σ i name [] []).exec w) ↔
        ∃ t : String, (w.value i).toText = .ok t ∧ DecimalForm [',','.'] t.toList ∧
          u = .text (String.ofList (t.toList.map pointFor)) := by
  have hrule : σ.registry.get? name = some asDecimal := by rw [hreg,hname]
  refine ⟨?_,fun u => ?_⟩
  · intro args byName u r hleft
    obtain ⟨t,hform,rfl⟩ := decimalForm_of_asDecimal (call_of_replaced hrule hi hleft)
    obtain ⟨n,hn⟩ := exists_written hform
    have hvalue : r.2.value w.nodes.size = .text (String.ofList t) := value_of_replaced hleft
    have hread : ReadWhole (String.ofList t) n :=
      readWhole_of_written (by rwa [String.toList_ofList])
    have hnumeric : σ.registry.get? "numeric" = some numeric := by
      rw [hreg]
      exact get?_of_listed (by simp [transformers,validators])
    have hjudged : numeric.call (.text (String.ofList t)) [] [] =
        .ok (.verdict true .null "numeric" []) := by
      rw [← hread.numeric]
      rfl
    refine ⟨_,n,rfl,by rwa [String.toList_ofList],hread,hvalue,?_,?_⟩
    · rw [apply_eq hnumeric (List.forall_mem_nil _),hvalue,hjudged]
      exact ⟨rfl,rfl,rfl⟩
    · refine replaced_of_call hrule (List.forall_mem_nil _) ?_
      rw [hvalue]
      exact asDecimal_again hform
  · rw [← asDecimal_default_iff]
    exact ⟨call_of_replaced hrule hi,replaced_of_call hrule (List.forall_mem_nil _)⟩

/-- A fraction with a separator of two characters, behind which there is one digit. -/
theorem decimals_readable_fraction :
    let σ : Setting := ⟨standard .none,.standard,false⟩
    let w := ((seed (.text "::5") none false).exec .empty).2
    let r := (apply σ 0 "as_decimal" [.text "::"] []).exec w
    (Effect.replaced (.text ".5")).Left w 0 r ∧ (∃ n, ReadWhole ".5" n) ∧
      (Effect.replaced (.text ".5")).Left r.2 1 ((apply σ 1 "as_decimal" [] []).exec r.2) := by
  intro σ w r
  have hleft : (Effect.replaced (.text ".5")).Left w 0 r := ⟨rfl,rfl,rfl⟩
  obtain ⟨s,n,hs,-,hread,-,-,hagain⟩ := (decimals_readable (σ := σ) (w := w) (i := 0)
    "as_decimal" rfl rfl (by decide)).1 [.text "::"] [] _ hleft
  cases hs
  exact ⟨hleft,⟨n,hread⟩,hagain⟩

end Run

end Vetting
