import Vetting.Proofs.Chain.Comparing
import Vetting.Proofs.CheckDigit.Canonical

/-!
# Numbers with check digits on chains

A rule on such a number puts the number in the place of a text that it can be read from. Read
again, the number is the same, with whatever characters it was written, and so the rule changes
nothing if it is applied once more to what it has made.
-/
namespace Vetting
variable {mail : Rules.MailReader}

namespace CheckDigit.Document

def name : Document → String
  | .card => "asCardNumber"
  | .person => "asCpf"
  | .company => "asCnpj"

def rule : Document → Rule
  | .card => Rules.asCardNumber
  | .person => Rules.asCpf
  | .company => Rules.asCnpj

/-- What comes of a text: the number that is read, or a failure. -/
def outcome (formatted : Bool) (k : Document) (s : String) : Outcome :=
  match k.read s.toList with
  | some r => .replaced (.text (String.ofList (k.write formatted r)))
  | none => Rules.failedUnder k.name

section
variable {k : Document} {args : List Value} {byName : Named Value} {b : Bound} {v u : Value}
  {formatted : Bool}

theorem openNames_free (k : Document) :
    ∀ n ∈ k.rule.signature.openNames, n ∉ Run.reservedNames := by
  cases k <;> decide

/-- A text comes to what is read from it, if there is a text. -/
theorem bind_read (read : List Char → Option (List Char)) (write : List Char → List Char)
    (name : String) (t : Except Failure String) :
    (t >>= fun s => match read s.toList with
      | some r => .ok (.replaced (.text (String.ofList (write r))))
      | none => .ok (Rules.failedUnder name)) =
    t.map fun s => match read s.toList with
      | some r => .replaced (.text (String.ofList (write r)))
      | none => Rules.failedUnder name := by
  cases t with
  | error f => rfl
  | ok s =>
      dsimp only [Bind.bind,Except.bind,Except.map]
      cases read s.toList <;> rfl

/-- The arguments only decide whether the number is written out. -/
theorem exists_run_eq (hb : k.rule.signature.bind args byName = .ok b) :
    ∃ formatted, ∀ v, k.rule.run v b = (orFail v.toText).map (k.outcome formatted) := by
  have hlen := Signature.length_of_bindAll (Signature.bindAll_of_bind hb).1
  cases k with
  | card =>
      refine ⟨false,fun v => ?_⟩
      simp only [rule,Rules.asCardNumber,List.eq_nil_of_length_eq_zero hlen]
      exact bind_read cardNumber? id "asCardNumber" _
  | person =>
      obtain ⟨x,hx⟩ := List.length_eq_one_iff.mp hlen
      refine ⟨x.toBool,fun v => ?_⟩
      simp only [rule,Rules.asCpf,Rules.taxpayerRule,hx]
      exact bind_read person? (write x.toBool .person) "asCpf" _
  | company =>
      obtain ⟨x,hx⟩ := List.length_eq_one_iff.mp hlen
      refine ⟨x.toBool,fun v => ?_⟩
      simp only [rule,Rules.asCnpj,Rules.taxpayerRule,hx]
      exact bind_read company? (write x.toBool .company) "asCnpj" _

theorem outcome_eq_replaced_iff {s : String} : k.outcome formatted s = .replaced u ↔
    ∃ r, k.read s.toList = some r ∧ u = .text (String.ofList (k.write formatted r)) := by
  rw [outcome]
  cases k.read s.toList with
  | none => simp [Rules.failedUnder]
  | some r => simp [eq_comm]

/-- A rule that has made a number of a value makes the same one of this number. -/
theorem call_again (h : k.rule.call v args byName = .ok (.replaced u)) :
    ∃ b, k.rule.signature.bind args byName = .ok b ∧ k.rule.run u b = .ok (.replaced u) := by
  rw [Rule.call] at h
  cases hb : k.rule.signature.bind args byName with
  | error f =>
      rw [hb] at h
      cases h
  | ok b =>
      obtain ⟨formatted,hrun⟩ := exists_run_eq hb
      replace h : k.rule.run v b = .ok (.replaced u) := by rwa [hb] at h
      refine ⟨b,rfl,?_⟩
      rw [hrun] at h
      cases hs : v.toText with
      | error f =>
          rw [hs] at h
          cases h
      | ok s =>
          rw [hs] at h
          obtain ⟨r,hr,rfl⟩ := outcome_eq_replaced_iff.mp (Except.ok.inj h)
          have hagain := read_of_written hr formatted
          rw [← String.toList_ofList (l := k.write formatted r)] at hagain
          rw [hrun]
          exact congrArg Except.ok (outcome_eq_replaced_iff.mpr ⟨r,hagain,rfl⟩)

end

end CheckDigit.Document

namespace Run
open CheckDigit
variable {σ : Setting} {w : World} {i : Nat} {name : String} {rule : Rule} {args : List Value}
  {byName : Named Value} {u : Value}

/-- A new value has come from a call of the rule. -/
theorem call_of_replaced (hrule : σ.registry.get? name = some rule) (hi : i < w.nodes.size)
    (h : (Effect.replaced u).Left w i ((apply σ i name args byName).exec w)) :
    rule.call (w.value i) args byName = .ok (.replaced u) := by
  rcases apply_cases hrule i args byName w with hr | ⟨o,ho,hr⟩
  · cases h.unique hi hr
  rw [hr] at h
  cases o with
  | replaced v =>
      cases h.unique hi (derive_left i v w)
      exact ho
  | verdict passed message rule fields =>
      rcases verdict_left σ w i passed message rule fields with hr | ⟨c,hc,-⟩
      · cases h.unique hi hr
      · cases h.unique hi hc

/-- The new node has the new value. -/
theorem value_of_replaced {r : Except Failure Nat × World}
    (h : (Effect.replaced u).Left w i r) : r.2.value w.nodes.size = u := by
  rw [World.value,World.node_push h.2.1,if_pos rfl,World.cell_push h.2.2,if_pos rfl]

/-- Numbers are their own normal forms, and so are what the rules on them make of values: the
same rule makes the same of it. What is left out between the digits does not matter. -/
theorem documents_canonical (k : Document) :
    (∀ s t, s.filter k.keeps = t.filter k.keeps → k.read s = k.read t) ∧
      (∀ s r, k.read s = some r → k.read r = some r ∧ k.read (k.format r) = some r) ∧
      (∀ s r, cardNumber? s = some r → r = withoutSpaces s ∧ isAsciiDigits r = true ∧
        8 ≤ r.length ∧ r.length ≤ 19 ∧ luhn r = true) ∧
      ∀ (σ : Setting) (w : World) (i : Nat) (name : String) (args : List Value)
        (byName : Named Value) (u : Value), σ.registry = Rules.standard mail →
        (Rules.standard mail).get? name = some k.rule → i < w.nodes.size →
        let r := (apply σ i name args byName).exec w
        (Effect.replaced u).Left w i r → r.2.value w.nodes.size = u ∧
          (Effect.replaced u).Left r.2 w.nodes.size
            ((apply σ w.nodes.size name args byName).exec r.2) := by
  refine ⟨fun _ _ => Document.read_congr,fun _ _ => Document.read_again,
    fun _ _ => cardNumber?_eq_some_iff.mp,?_⟩
  intro σ w i name args byName u hreg hname hi r hleft
  have hrule : σ.registry.get? name = some k.rule := by rw [hreg,hname]
  have hvalue : r.2.value w.nodes.size = u := value_of_replaced hleft
  obtain ⟨b,hb,hrun⟩ := Document.call_again (call_of_replaced hrule hi hleft)
  refine ⟨hvalue,?_⟩
  rw [exec_apply_of_bind hrule k.openNames_free hb,hvalue,hrun]
  exact derive_left w.nodes.size u r.2

/-- The tax number of a person with a blank in it, which is written out twice. -/
theorem documents_canonical_person :
    let σ : Setting := ⟨Rules.standard .none,.standard,false⟩
    let w := ((seed (.text "111444777 35") (some "cpf") false).exec .empty).2
    let r := (apply σ 0 "as_cpf" [] []).exec w
    let u := Value.text "111.444.777-35"
    person? "111444777 35".toList = some "11144477735".toList ∧
      person? "11144477735".toList = some "11144477735".toList ∧
      (Effect.replaced u).Left w 0 r ∧
      (Effect.replaced u).Left r.2 1 ((apply σ 1 "as_cpf" [] []).exec r.2) := by
  intro σ w r u
  obtain ⟨-,hread,-,happly⟩ := documents_canonical .person
  have hs : person? "111444777 35".toList = some "11144477735".toList := by decide
  have hname : (Rules.standard .none).get? "as_cpf" = some Document.person.rule := rfl
  have hleft : (Effect.replaced u).Left w 0 r := ⟨rfl,rfl,rfl⟩
  exact ⟨hs,(hread _ _ hs).1,hleft,(happly σ w 0 "as_cpf" [] [] u rfl hname (by decide) hleft).2⟩

end Run

end Vetting
