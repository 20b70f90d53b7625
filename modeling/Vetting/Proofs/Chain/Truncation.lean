import Vetting.Proofs.Chain.Document

/-!
# Cutting texts on chains

A text that is longer than it should be is cut, and an ending is put behind what is left of it.
The ending counts, but it stays whole where it is longer than the text should be. What has been
cut is as long as it should be or consists of the ending alone, and so cutting it once more
changes nothing.
-/
namespace Vetting
variable {mail : Rules.MailReader}

namespace Rules

section
variable {n : Int} {ending s : List Char}

theorem truncate_of_le (h : (s.length : Int) ≤ n) : truncate n ending s = s :=
  if_neg (not_lt.mpr h)

theorem truncate_of_lt (h : n < s.length) :
    truncate n ending s = s.take (n - ending.length).toNat ++ ending := if_pos h

theorem length_truncate (h : n < s.length) :
    ((truncate n ending s).length : Int) = max n ending.length := by
  rw [truncate_of_lt h,List.length_append,List.length_take]
  omega

/-- An ending that does not fit is all that is left. -/
theorem truncate_of_ending (hending : n < ending.length) (h : n < s.length) :
    truncate n ending s = ending := by
  have hnone : (n - ending.length).toNat = 0 := by omega
  rw [truncate_of_lt h,hnone,List.take_zero,List.nil_append]

/-- Cutting settles in one step. -/
theorem truncate_truncate (n : Int) (ending s : List Char) :
    truncate n ending (truncate n ending s) = truncate n ending s := by
  by_cases h : n < s.length
  · by_cases hending : n < ending.length
    · rw [truncate_of_ending hending h,truncate_of_ending hending hending]
    · refine truncate_of_le ?_
      rw [length_truncate h]
      omega
  · rw [truncate_of_le (not_lt.mp h),truncate_of_le (not_lt.mp h)]

end

/-- The rules that cut texts. -/
inductive Cutting where
  | truncate | limit

namespace Cutting

def rule : Cutting → Rule
  | .truncate => asTruncate
  | .limit => asLimit

/-- The arguments that say how long a text should be and what to put behind it: for a limit that
is nothing. -/
def Takes (b : Bound) (size : Value) (ending : String) : Cutting → Prop
  | .truncate => b.given = [size,.text ending]
  | .limit => b.given = [size] ∧ ending = ""

section
variable {k : Cutting} {b : Bound} {size v : Value} {ending t : String} {n : Int}

theorem openNames_unreserved (k : Cutting) :
    ∀ name ∈ k.rule.signature.openNames, name ∉ Run.reservedNames := by
  cases k <;> decide

theorem intArgument_eq (hn : size.toInt = .ok (some n)) (name : String) :
    intArgument name size = .ok n := by
  rw [intArgument,hn]
  rfl

theorem run_eq (htakes : k.Takes b size ending) (ht : v.toText = .ok t)
    (hn : size.toInt = .ok (some n)) :
    k.rule.run v b = .ok (replacedText (Rules.truncate n ending.toList t.toList)) := by
  have hcut : truncated v size (.text ending) =
      .ok (replacedText (Rules.truncate n ending.toList t.toList)) := by
    rw [truncated,ht,intArgument_eq hn]
    rfl
  cases k with
  | truncate =>
      have hgiven : b.given = [size,.text ending] := htakes
      simp only [rule,asTruncate,hgiven,hcut]
  | limit =>
      obtain ⟨hgiven,rfl⟩ := htakes
      simp only [rule,asLimit,hgiven,hcut]

end

end Cutting

/-- A text passes an upper bound on its length. -/
theorem llte_run_text {x : Value} {u : String} {n : Int} (hn : x.toInt = .ok (some n))
    (hlen : (u.length : Int) ≤ n) : llte.run (.text u) ⟨[x,.null],[],[]⟩ =
      .ok (.verdict true .null "llte" [("x",.int n)]) := by
  have hbound : decide (((u.length : Nat) : Int) ≤ n) = true := decide_eq_true hlen
  simp only [llte,sized,Cutting.intArgument_eq hn]
  rw [← hbound]
  rfl

end Rules

namespace Run
open Rules
variable {σ : Setting} {w : World} {i : Nat} {k : Cutting} {b : Bound} {size : Value}
  {ending t : String} {n : Int}

/-- A value whose text is no longer than it should be has this text put in its place. The text of
any other one is cut to the front of it with the ending behind, which is as long as it should be
or as the ending, whichever is longer. The same rule changes nothing of what has come out, and
this passes the bound on its length unless the ending is longer. -/
theorem truncation_settles (name : String) (args : List Value) (byName : Named Value)
    (hreg : σ.registry = standard mail) (hname : (standard mail).get? name = some k.rule)
    (hb : k.rule.signature.bind args byName = .ok b) (htakes : k.Takes b size ending)
    (ht : (w.value i).toText = .ok t) (hn : size.toInt = .ok (some n)) :
    let r := (apply σ i name args byName).exec w
    ∃ u : String, (Effect.replaced (.text u)).Left w i r ∧
      r.2.value w.nodes.size = .text u ∧
      ((t.length : Int) ≤ n → u = t) ∧
      (n < t.length → (u.length : Int) = max n ending.length ∧
        ∃ front, front <+: t.toList ∧ u.toList = front ++ ending.toList) ∧
      (Effect.replaced (.text u)).Left r.2 w.nodes.size
        ((apply σ w.nodes.size name args byName).exec r.2) ∧
      ((ending.length : Int) ≤ n → ∀ x : Value, x.toInt = .ok (some n) →
        (Effect.checked (.passed (.text "llte"))).Left r.2 w.nodes.size
          ((apply σ w.nodes.size "llte" [x] []).exec r.2)) := by
  intro r
  have hrule : σ.registry.get? name = some k.rule := by rw [hreg,hname]
  have hexec (j : Nat) (w' : World) : (apply σ j name args byName).exec w' =
      (ofExcept (k.rule.run (w'.value j) b) >>= conclude σ j).exec w' :=
    exec_apply_of_bind hrule k.openNames_unreserved hb
  have hleft : (Effect.replaced (.text (String.ofList
      (truncate n ending.toList t.toList)))).Left w i r := by
    have hr : r = _ := hexec i w
    rw [hr,Cutting.run_eq htakes ht hn]
    exact derive_left i _ w
  generalize hu : String.ofList (truncate n ending.toList t.toList) = u at hleft
  have hlist : u.toList = truncate n ending.toList t.toList := by rw [← hu,String.toList_ofList]
  have hvalue : r.2.value w.nodes.size = .text u := value_of_replaced hleft
  refine ⟨u,hleft,hvalue,fun hle => ?_,fun hlt => ?_,?_,fun hending x hx => ?_⟩
  · rw [← hu,truncate_of_le (by rwa [String.length_toList]),String.ofList_toList]
  · have hlong : n < t.toList.length := by rwa [String.length_toList]
    refine ⟨?_,_,List.take_prefix _ _,hlist.trans (truncate_of_lt hlong)⟩
    rw [← String.length_toList,hlist,length_truncate hlong,String.length_toList]
  · have htext : (r.2.value w.nodes.size).toText = .ok u := by rw [hvalue]; rfl
    rw [hexec,Cutting.run_eq htakes htext hn,hlist,truncate_truncate,← hlist,replacedText,
      String.ofList_toList]
    exact derive_left w.nodes.size _ r.2
  · have hlen : (u.length : Int) ≤ n := by
      rw [← String.length_toList,hlist]
      by_cases hlt : n < t.toList.length
      · rw [length_truncate hlt,String.length_toList]
        exact max_le le_rfl hending
      · rw [truncate_of_le (not_lt.mp hlt)]
        exact not_lt.mp hlt
    have hllte : σ.registry.get? "llte" = some llte := by
      rw [hreg]
      exact get?_of_listed (by simp [transformers,validators])
    have hbound : llte.signature.bind [x] [] = .ok ⟨[x,.null],[],[]⟩ := rfl
    rw [exec_apply_of_bind hllte (by decide) hbound,hvalue,llte_run_text hx hlen]
    exact ⟨rfl,rfl,rfl⟩

/-- A text is cut to four characters, with an ending given by name that is one of them. -/
theorem truncation_settles_four :
    let σ : Setting := ⟨standard .none,.standard,false⟩
    let w := ((seed (.text "abcdef") none false).exec .empty).2
    let r := (apply σ 0 "as_truncate" [.text "4"] [("end",.text "…")]).exec w
    (Effect.replaced (.text "abc…")).Left w 0 r ∧
      (Effect.checked (.passed (.text "llte"))).Left r.2 1
        ((apply σ 1 "llte" [.int 4] []).exec r.2) := by
  intro σ w r
  have hsize : (Value.text "4").toInt = .ok (some 4) := by decide +kernel
  have hcut : (Effect.replaced (.text "abc…")).Left w 0 r := ⟨rfl,rfl,rfl⟩
  have htakes : Cutting.truncate.Takes ⟨[.text "4",.text "…"],[],[]⟩ (.text "4") "…" := rfl
  obtain ⟨u,hleft,-,-,-,-,hpasses⟩ := truncation_settles (σ := σ) (w := w) (i := 0)
    "as_truncate" [.text "4"] [("end",.text "…")] rfl rfl rfl htakes rfl hsize
  cases hleft.unique (by decide) hcut
  exact ⟨hcut,hpasses (by decide) (.int 4) rfl⟩

end Run

end Vetting
