import Mathlib.Data.List.Basic
import Mathlib.Data.List.Induction
import Mathlib.Order.Nat
import Vetting.Rules.Standard

/-!
# Registries as the replay of what was done to them

Many registries are made, copied and changed, in any order. The lineage of a registry is
the row of changes that were made to it, after those that had been made to the registry it
was copied from. By `Registry.registries_eq_replay` every registry is the replay of its
lineage, and all that it answers can be told from the lineage alone: under a name stands what
the last change about the name has put there, and the names come in the order in which they
were put there, each counted from when it has been there without a break.
-/
namespace Vetting

namespace Registry

/-- What can be done to one registry. -/
inductive Change (α : Type) where
  | register (name : String) (a : α) (aliases : List String)
  | unregister (name : String)
  | clear

namespace Change
variable {α : Type}

/-- The names that a change puts something under, in the order in which it does. -/
def given : Change α → List String
  | .register name _ aliases => name :: aliases
  | _ => []

/-- What a change puts under its names. -/
def entry? : Change α → Option α
  | .register _ a _ => some a
  | _ => none

def concerns (name : String) : Change α → Bool
  | .register n _ aliases => (n :: aliases).contains name
  | .unregister n => n == name
  | .clear => true

end Change

/-! ## What a lineage says -/

section
variable {α : Type} {h : List (Change α)} {c : Change α} {name : String} {i j : Nat}

/-- What the last change about a name has put under it, if that put anything there. -/
def standing (h : List (Change α)) (name : String) : Option α :=
  (h.reverse.find? (Change.concerns name)).bind Change.entry?

/-- Change `i` put something under a name that had nothing, and from then on something has
always been there. -/
structure Since (h : List (Change α)) (name : String) (i : Nat) : Prop where
  lt : i < h.length
  absent : standing (h.take i) name = none
  present : ∀ j, i < j → j ≤ h.length → (standing (h.take j) name).isSome = true

/-- A name has been there longer than another, or came in with the same change, which gives
it first. -/
def Earlier (h : List (Change α)) (n m : String) : Prop :=
  ∃ i j, Since h n i ∧ Since h m j ∧
    (i < j ∨ i = j ∧ ∃ c, h[i]? = some c ∧ c.given.idxOf n < c.given.idxOf m)

theorem standing_append (h : List (Change α)) (c : Change α) (name : String) :
    standing (h ++ [c]) name = if c.concerns name then c.entry? else standing h name := by
  rw [standing,List.reverse_append,List.reverse_singleton,List.singleton_append,
    List.find?_cons]
  cases c.concerns name <;> rfl

theorem Since.unique (hi : Since h name i) (hj : Since h name j) : i = j := by
  have hle : ∀ {i j : Nat}, Since h name i → Since h name j → i ≤ j := by
    intro i j hi hj
    by_contra hlt
    have hp := hj.present i (Nat.lt_of_not_le hlt) (Nat.le_of_lt hi.lt)
    rw [hi.absent] at hp
    cases hp
  exact Nat.le_antisymm (hle hi hj) (hle hj hi)

/-- A name that is not lost keeps its beginning. -/
theorem Since.append (hi : Since h name i)
    (hc : (standing (h ++ [c]) name).isSome = true) : Since (h ++ [c]) name i := by
  have hlt := hi.lt
  have htake : ∀ j ≤ h.length, (h ++ [c]).take j = h.take j :=
    fun j hj => List.take_append_of_le_length hj
  constructor
  · rw [List.length_append]
    omega
  · rw [htake i (Nat.le_of_lt hlt)]
    exact hi.absent
  · intro j hij hj
    rw [List.length_append,List.length_singleton] at hj
    by_cases hjh : j ≤ h.length
    · rw [htake j hjh]
      exact hi.present j hij hjh
    · rw [List.take_of_length_le (by simp; omega)]
      exact hc

/-- A name that is new begins with the last change. -/
theorem Since.new (hn : standing h name = none)
    (hc : (standing (h ++ [c]) name).isSome = true) : Since (h ++ [c]) name h.length := by
  constructor
  · simp
  · rw [List.take_left]
    exact hn
  · intro j hj hle
    rw [List.take_of_length_le (by simp at hle ⊢; omega)]
    exact hc

/-- What is there has been there since some change. -/
theorem exists_since (hs : (standing h name).isSome = true) : ∃ i, Since h name i := by
  induction h using List.reverseRecOn with
  | nil => cases hs
  | append_singleton h c ih =>
      cases hn : standing h name with
      | none => exact ⟨h.length,.new hn hs⟩
      | some a =>
          obtain ⟨i,hi⟩ := ih (by rw [hn]; rfl)
          exact ⟨i,hi.append hs⟩

theorem Earlier.append {n m : String} (he : Earlier h n m)
    (hn : (standing (h ++ [c]) n).isSome = true)
    (hm : (standing (h ++ [c]) m).isSome = true) : Earlier (h ++ [c]) n m := by
  obtain ⟨i,j,hi,hj,hij⟩ := he
  have hget : (h ++ [c])[i]? = h[i]? := List.getElem?_append_left hi.lt
  exact ⟨i,j,hi.append hn,hj.append hm,by rw [hget]; exact hij⟩

theorem Earlier.irrefl {n : String} : ¬ Earlier h n n := by
  intro he
  obtain ⟨i,j,hi,hj,hij⟩ := he
  cases hi.unique hj
  cases hij with
  | inl hlt => exact Nat.lt_irrefl i hlt
  | inr heq =>
      obtain ⟨-,c,-,hlt⟩ := heq
      exact Nat.lt_irrefl _ hlt

end

variable {α : Type} [Applicable α] {r : Registry α} {name : String}
  {h : List (Change α)} {c : Change α}

/-! ## What a change does -/

theorem mem_names_iff : name ∈ r.names ↔ (r.get? name).isSome = true :=
  Named.isSome_get?_iff.symm

/-- The names among given ones that old ones are without, in the order in which they are
first given. -/
structure Added (old given added : List String) : Prop where
  mem : ∀ n, n ∈ added ↔ n ∈ given ∧ n ∉ old
  order : added.Pairwise fun n m => given.idxOf n < given.idxOf m

namespace Added
variable {old given added : List String} {k : String}

/-- A name that has been added keeps the place at which it was first given. -/
theorem order_append (h : Added old given added) (k : String) :
    added.Pairwise fun n m => (given ++ [k]).idxOf n < (given ++ [k]).idxOf m := by
  apply h.order.imp_of_mem
  intro n m hn hm hlt
  rw [List.idxOf_append_of_mem ((h.mem n).mp hn).1,
    List.idxOf_append_of_mem ((h.mem m).mp hm).1]
  exact hlt

theorem known (h : Added old given added) (hk : k ∈ old ++ added) :
    Added old (given ++ [k]) added := by
  constructor
  · intro n
    rw [h.mem,List.mem_append,List.mem_singleton]
    constructor
    · exact fun hn => ⟨Or.inl hn.1,hn.2⟩
    · intro hn
      have hgiven : n = k → n ∈ given := by
        intro he
        rw [← he] at hk
        exact ((h.mem n).mp ((List.mem_append.mp hk).resolve_left hn.2)).1
      exact ⟨hn.1.elim id hgiven,hn.2⟩
  · exact h.order_append k

theorem fresh (h : Added old given added) (hk : k ∉ old ++ added) :
    Added old (given ++ [k]) (added ++ [k]) := by
  have hold : k ∉ old := fun hm => hk (List.mem_append_left added hm)
  have hgiven : k ∉ given := fun hm => hk (List.mem_append_right _ ((h.mem k).mpr ⟨hm,hold⟩))
  constructor
  · intro n
    have hn : n = k → n ∉ old := fun he => he ▸ hold
    simp only [List.mem_append,List.mem_singleton,h.mem]
    tauto
  · rw [List.pairwise_append]
    refine ⟨h.order_append k,List.pairwise_singleton _ k,?_⟩
    intro n hn m hm
    have hmem := ((h.mem n).mp hn).1
    have hlt := List.idxOf_lt_length_of_mem hmem
    rw [List.mem_singleton.mp hm,List.idxOf_append_of_mem hmem,
      List.idxOf_append_of_notMem hgiven]
    omega

end Added

/-- A registration puts the names that are new behind the others. -/
theorem names_foldl_insert (r : Registry α) (a : α) (ns : List String) :
    ∃ added, (ns.foldl (fun r n => r.insert n a) r).names = r.names ++ added ∧
      Added r.names ns added := by
  induction ns using List.reverseRecOn with
  | nil => exact ⟨[],by simp,by simp,.nil⟩
  | append_singleton ns k ih =>
      obtain ⟨added,hnames,hadded⟩ := ih
      have hput : ((ns ++ [k]).foldl (fun r n => r.insert n a) r).names =
          if k ∈ r.names ++ added then r.names ++ added else r.names ++ added ++ [k] := by
        rw [List.foldl_append,List.foldl_cons,List.foldl_nil,← hnames]
        exact Named.names_put k a _
      by_cases hk : k ∈ r.names ++ added
      · exact ⟨added,by rw [hput,if_pos hk],hadded.known hk⟩
      · exact ⟨added ++ [k],by rw [hput,if_neg hk,List.append_assoc],hadded.fresh hk⟩

def Change.apply (r : Registry α) : Change α → Registry α
  | .register name a aliases => r.register name a aliases
  | .unregister name => r.unregister name
  | .clear => empty

theorem get?_apply (r : Registry α) (c : Change α) (name : String) :
    (c.apply r).get? name = if c.concerns name then c.entry? else r.get? name := by
  cases c with
  | register n a aliases =>
      rw [Change.apply,get?_register]
      by_cases h : name ∈ n :: aliases
      · simp [Change.concerns,Change.entry?,h]
      · simp [Change.concerns,h]
  | unregister n =>
      rw [Change.apply]
      by_cases h : name = n
      · rw [h,get?_unregister_self]
        simp [Change.concerns,Change.entry?]
      · rw [get?_unregister_of_ne r h]
        simp [Change.concerns,Ne.symm h]
  | clear => rfl

/-! ## The replay of a lineage -/

def replay (h : List (Change α)) : Registry α := h.foldl Change.apply empty

theorem replay_append (h : List (Change α)) (c : Change α) :
    replay (h ++ [c]) = c.apply (replay h) := by
  rw [replay,List.foldl_append]
  rfl

/-- By induction on the lineage, from its end. -/
theorem get?_replay (h : List (Change α)) (name : String) :
    (replay h).get? name = standing h name := by
  induction h using List.reverseRecOn with
  | nil => rfl
  | append_singleton h c ih => rw [replay_append,get?_apply,standing_append,ih]

theorem mem_names_replay : name ∈ (replay h).names ↔ (standing h name).isSome = true := by
  rw [mem_names_iff,get?_replay]

/-- Names that stay keep their order. -/
theorem pairwise_earlier_append {ns : List String} (hs : ns.Sublist (replay h).names)
    (ho : (replay h).names.Pairwise (Earlier h))
    (hc : ∀ n ∈ ns, (standing (h ++ [c]) n).isSome = true) :
    ns.Pairwise (Earlier (h ++ [c])) := by
  apply (ho.sublist hs).imp_of_mem
  intro n m hn hm he
  exact he.append (hc n hn) (hc m hm)

/-- A registration leaves the names before it in their order and puts new ones behind them,
as they are given. -/
theorem names_register_pairwise (a : α) (aliases : List String)
    (ho : (replay h).names.Pairwise (Earlier h)) :
    (replay (h ++ [.register name a aliases])).names.Pairwise
      (Earlier (h ++ [.register name a aliases])) := by
  have hpresent : ∀ n ∈ (replay (h ++ [.register name a aliases])).names,
      (standing (h ++ [.register name a aliases]) n).isSome = true :=
    fun n hn => mem_names_replay.mp hn
  obtain ⟨added,hnames,hadded⟩ := names_foldl_insert (replay h) a (name :: aliases)
  have hsplit : (replay (h ++ [.register name a aliases])).names =
      (replay h).names ++ added := by
    rw [replay_append]
    exact hnames
  rw [hsplit] at hpresent ⊢
  have hold : ∀ n ∈ (replay h).names,
      (standing (h ++ [.register name a aliases]) n).isSome = true :=
    fun n hn => hpresent n (List.mem_append_left added hn)
  have hnew : ∀ n ∈ added, Since (h ++ [.register name a aliases]) n h.length := by
    intro n hn
    have hs := hpresent n (List.mem_append_right _ hn)
    have habsent := ((hadded.mem n).mp hn).2
    rw [mem_names_replay] at habsent
    exact .new (by simpa using habsent) hs
  rw [List.pairwise_append]
  refine ⟨pairwise_earlier_append (List.Sublist.refl _) ho hold,?_,?_⟩
  · apply hadded.order.imp_of_mem
    intro n m hn hm hlt
    have hget : (h ++ [.register name a aliases])[h.length]? =
        some (.register name a aliases) := by simp
    exact ⟨h.length,h.length,hnew n hn,hnew m hm,Or.inr ⟨rfl,_,hget,hlt⟩⟩
  · intro n hn m hm
    obtain ⟨i,hi⟩ := exists_since (mem_names_replay.mp hn)
    exact ⟨i,h.length,hi.append (hold n hn),hnew m hm,Or.inl hi.lt⟩

/-- By induction on the lineage: the names of a registry are in the order of their
beginnings. -/
theorem names_replay_pairwise (h : List (Change α)) :
    (replay h).names.Pairwise (Earlier h) := by
  induction h using List.reverseRecOn with
  | nil => exact .nil
  | append_singleton h c ih =>
      cases c with
      | register name a aliases => exact names_register_pairwise a aliases ih
      | clear =>
          rw [replay_append]
          exact .nil
      | unregister name =>
          have hs : (replay (h ++ [.unregister name])).names.Sublist (replay h).names := by
            rw [replay_append]
            change (Named.names (Named.erase name (replay h).entries)).Sublist _
            rw [Named.names_erase]
            exact List.filter_sublist
          exact pairwise_earlier_append hs ih fun n hn => mem_names_replay.mp hn

theorem nodup_names_replay (h : List (Change α)) : (replay h).names.Nodup := by
  apply (names_replay_pairwise h).imp
  intro n m he heq
  rw [heq] at he
  exact he.irrefl

/-! ## Many registries -/

/-- What can be done with a row of registries: a new one, a copy of one that is there, which
both go to the end of the row, and a change of one. -/
inductive Act (α : Type) where
  | create
  | copy (k : Nat)
  | change (k : Nat) (c : Change α)

namespace Act

def run (rs : List (Registry α)) : Act α → List (Registry α)
  | .create => rs ++ [empty]
  | .copy k => rs ++ (rs[k]?).toList
  | .change k c => rs.modify k c.apply

/-- What an act adds to the lineages of all registries. -/
def record {α : Type} (hs : List (List (Change α))) : Act α → List (List (Change α))
  | .create => hs ++ [[]]
  | .copy k => hs ++ (hs[k]?).toList
  | .change k c => hs.modify k fun h => h ++ [c]

/-- The step: acts on registries are recorded in their lineages. -/
theorem run_map_replay (act : Act α) (hs : List (List (Change α))) :
    act.run (hs.map replay) = (act.record hs).map replay := by
  cases act with
  | create =>
      rw [run,record,List.map_append]
      rfl
  | copy k =>
      rw [run,record,List.map_append,List.getElem?_map]
      cases hs[k]? <;> rfl
  | change k c =>
      rw [run,record]
      apply List.ext_getElem?
      intro j
      rw [List.getElem?_modify,List.getElem?_map,List.getElem?_map,List.getElem?_modify]
      cases hs[j]? with
      | none => rfl
      | some h =>
          by_cases hjk : k = j
          · simp [hjk,replay_append]
          · simp [hjk]

/-- An act leaves every registry as it is but the one that it changes. -/
theorem getElem?_run (act : Act α) {rs : List (Registry α)} {k : Nat} (hk : k < rs.length)
    (hact : ∀ c, act ≠ .change k c) : (act.run rs)[k]? = rs[k]? := by
  cases act with
  | create => exact List.getElem?_append_left hk
  | copy j => exact List.getElem?_append_left hk
  | change j c =>
      have hjk : j ≠ k := by
        intro h
        exact hact c (by rw [h])
      rw [run,List.getElem?_modify]
      simp [hjk]

end Act

def registries (acts : List (Act α)) : List (Registry α) := acts.foldl Act.run []

def lineages {α : Type} (acts : List (Act α)) : List (List (Change α)) :=
  acts.foldl Act.record []

/-- The run: by induction on the acts, every registry is the replay of its lineage. -/
theorem registries_eq_replay (acts : List (Act α)) :
    registries acts = (lineages acts).map replay := by
  induction acts using List.reverseRecOn with
  | nil => rfl
  | append_singleton acts act ih =>
      rw [registries,lineages,List.foldl_append,List.foldl_append]
      change act.run (registries acts) = (act.record (lineages acts)).map replay
      rw [ih,act.run_map_replay]

/-- How a registry of rules with a lineage answers. -/
structure Answers (r : Registry Rule) (h : List (Change Rule)) : Prop where
  contains : ∀ name, r.contains name = true ↔ (standing h name).isSome = true
  get? : ∀ name, r.get? name = standing h name
  maxArguments : ∀ name, r.maxArguments name =
    (standing h name).bind fun rule => rule.signature.arity
  nodup : r.names.Nodup
  mem_names : ∀ name, name ∈ r.names ↔ r.contains name = true
  order : r.names.Pairwise (Earlier h)

theorem replay_answers (h : List (Change Rule)) : (replay h).Answers h where
  contains name := by rw [Registry.contains,get?_replay]
  get? := get?_replay h
  maxArguments name := by
    rw [maxArguments_eq,get?_replay]
    rfl
  nodup := nodup_names_replay h
  mem_names _ := mem_names_iff
  order := names_replay_pairwise h

/-- After any acts, every registry answers as its lineage says, and whatever is done next to
other registries, or by copying this one, leaves it as it is. -/
theorem registries_answer {acts : List (Act Rule)} {k : Nat} {r : Registry Rule}
    (hr : (registries acts)[k]? = some r) :
    ∃ h, (lineages acts)[k]? = some h ∧ r.Answers h ∧
      ∀ act : Act Rule, (∀ c, act ≠ .change k c) →
        (act.run (registries acts))[k]? = some r := by
  have hk : k < (registries acts).length := (List.getElem?_eq_some_iff.mp hr).choose
  have hl := hr
  rw [registries_eq_replay,List.getElem?_map] at hl
  obtain ⟨h,hh,hrh⟩ := Option.map_eq_some_iff.mp hl
  have hanswers : r.Answers h := by
    rw [← hrh]
    exact replay_answers h
  refine ⟨h,hh,hanswers,?_⟩
  intro act hact
  rw [act.getElem?_run hk hact,hr]

/-- A rule is registered under a name that is also its alias, one of its names gets another
rule, the other is lost and comes back; the copy made before is cleared. -/
theorem registries_answer_renamed :
    let h : List (Change Rule) :=
      [.register "same" Rules.eq ["eq","same"],.register "one" Rules.isIn [],
        .register "eq" Rules.asTrim [],.unregister "same",.register "same" Rules.eq []]
    let acts : List (Act Rule) :=
      [.create,.change 0 (.register "same" Rules.eq ["eq","same"]),.copy 0,
        .change 0 (.register "one" Rules.isIn []),.change 0 (.register "eq" Rules.asTrim []),
        .change 0 (.unregister "same"),.change 1 .clear,
        .change 0 (.register "same" Rules.eq [])]
    (registries acts)[0]? = some (replay h) ∧ (replay h).Answers h ∧
      (replay h).names = ["eq","one","same"] ∧
      ["eq","one","same"].map (replay h).maxArguments = [some 0,none,some 2] := by
  intro h acts
  have hr : (registries acts)[0]? = some (replay h) := rfl
  obtain ⟨h',hh,hanswers,-⟩ := registries_answer hr
  cases hh
  exact ⟨hr,hanswers,rfl,rfl⟩

end Registry

end Vetting
