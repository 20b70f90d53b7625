import Vetting.Proofs.Value.Loose
import Vetting.Rules.Comparison

/-!
# What comparisons promise

A rule of order passes if the order holds, and one that allows equality also if the two are
equal. This is kept for all values but those that no order holds of: they compare as level, and
so pass as if they were equal. Membership is equality with one of the choices, and strict
equality is a special case of the loose one.
-/
namespace Vetting

namespace Rule

/-- The rule comes to a verdict on a value. -/
def Judges (r : Rule) (v : Value) (args : List Value) (byName : Named Value) : Prop :=
  ∃ passed message name fields,
    r.call v args byName = .ok (.verdict passed message name fields)

/-- The value passes the rule. -/
def Passes (r : Rule) (v : Value) (args : List Value) (byName : Named Value) : Prop :=
  ∃ message name fields, r.call v args byName = .ok (.verdict true message name fields)

end Rule

namespace Rules

section
variable {v x y : Value} {cs : List Value} {b : Bool}

/-! ## When rules pass -/

theorem passes_of_orFail {c : Except Fault Bool} {message : Value} {name : String}
    {fields : Named Value} :
    (∃ m n fs, (orFail c >>= fun p => .ok (.verdict p message name fields) :
      Except Failure Outcome) = .ok (.verdict true m n fs)) ↔ c = .ok true := by
  cases c with
  | error f => simp [orFail,Bind.bind,Except.bind]
  | ok b => simp [orFail,Bind.bind,Except.bind]

theorem eq_passes_iff : eq.Passes v [x] [] ↔ v.looseEqual x = .ok true :=
  passes_of_orFail

theorem seq_passes_iff : seq.Passes v [x] [] ↔ v.kind = x.kind ∧ v.Equals x := by
  have h : seq.Passes v [x] [] ↔ identical v x = .ok true := passes_of_orFail
  rw [h,identical]
  by_cases hkind : v.kind = x.kind
  · simp [hkind,Value.Equals]
  · simp [hkind]

theorem ordered_passes_iff {name : String} {accepted : List Int} :
    (ordered name accepted).Passes v [x] [] ↔ stands v x accepted = .ok true :=
  passes_of_orFail

theorem stands_iff {accepted : List Int} :
    stands v x accepted = .ok true ↔ ∃ o ∈ accepted, v.looseCompare x = .ok (some o) := by
  rw [stands]
  rcases v.looseCompare x with f | _ | o <;> simp [Bind.bind,Except.bind]

theorem between_passes_iff :
    between.Passes v [x,y] [] ↔ gte.Passes v [x] [] ∧ lte.Passes v [y] [] := by
  have h : between.Passes v [x,y] [] ↔ isBetween v x y = .ok true := passes_of_orFail
  rw [h,isBetween,gte,lte,ordered_passes_iff,ordered_passes_iff]
  rcases stands v x [0,1] with f | _ | _ <;> simp [Bind.bind,Except.bind]

theorem gt_passes_iff : gt.Passes v [x] [] ↔ v.looseCompare x = .ok (some 1) := by
  simp [gt,ordered_passes_iff,stands_iff]

theorem lt_passes_iff : lt.Passes v [x] [] ↔ v.looseCompare x = .ok (some (-1)) := by
  simp [lt,ordered_passes_iff,stands_iff]

theorem gte_passes_iff : gte.Passes v [x] [] ↔
    v.looseCompare x = .ok (some 0) ∨ v.looseCompare x = .ok (some 1) := by
  simp [gte,ordered_passes_iff,stands_iff]

theorem lte_passes_iff : lte.Passes v [x] [] ↔
    v.looseCompare x = .ok (some (-1)) ∨ v.looseCompare x = .ok (some 0) := by
  simp [lte,ordered_passes_iff,stands_iff]

/-! ## Rules of order -/

/-- Neither loose equality nor loose comparison fails. -/
def Comparable (v x : Value) : Prop :=
  (∃ b, v.looseEqual x = .ok b) ∧ ∃ o, v.looseCompare x = .ok o

/-- What is promised of a value and one bound: the value is level with the bound only if equal
to it; where the two have an order, a rule that allows equality passes exactly if the strict
rule or equality does; of the strict rules and equality one passes at most; and if none of them
does, the others do not either. -/
structure Kept (v x : Value) : Prop where
  level : v.looseCompare x = .ok (some 0) → v.looseEqual x = .ok true
  gte : (∃ o, v.looseCompare x = .ok (some o)) →
    (gte.Passes v [x] [] ↔ gt.Passes v [x] [] ∨ eq.Passes v [x] [])
  lte : (∃ o, v.looseCompare x = .ok (some o)) →
    (lte.Passes v [x] [] ↔ lt.Passes v [x] [] ∨ eq.Passes v [x] [])
  single : ¬ (gt.Passes v [x] [] ∧ lt.Passes v [x] []) ∧
    ¬ (gt.Passes v [x] [] ∧ eq.Passes v [x] []) ∧ ¬ (lt.Passes v [x] [] ∧ eq.Passes v [x] [])
  none : ¬ gt.Passes v [x] [] → ¬ lt.Passes v [x] [] → ¬ eq.Passes v [x] [] →
    ¬ Rules.gte.Passes v [x] [] ∧ ¬ Rules.lte.Passes v [x] []

/-- The value lies between two bounds only if it is equal to each or strictly inside. -/
def Between (v x y : Value) : Prop := between.Passes v [x,y] [] →
  (gt.Passes v [x] [] ∨ eq.Passes v [x] []) ∧ (lt.Passes v [y] [] ∨ eq.Passes v [y] [])

theorem level_of_equal {o : Int} (hv : v.WellFormed) (hx : x.WellFormed)
    (ho : v.looseCompare x = .ok (some o)) (he : v.looseEqual x = .ok true) : o = 0 := by
  rcases Value.looseCompare_of_looseEqual hv hx he ho with hnone | hzero
  · cases hnone
  · exact Option.some.inj hzero

theorem kept_of_level (hv : v.WellFormed) (hx : x.WellFormed)
    (h : v.looseCompare x = .ok (some 0) → v.looseEqual x = .ok true) : Kept v x := by
  refine ⟨h,?_,?_,?_,?_⟩
  · rintro ⟨o,ho⟩
    rw [gte_passes_iff,gt_passes_iff,eq_passes_iff]
    constructor
    · exact fun hgte => hgte.symm.imp_right h
    · rintro (hgt | he)
      · exact Or.inr hgt
      · exact Or.inl (level_of_equal hv hx ho he ▸ ho)
  · rintro ⟨o,ho⟩
    rw [lte_passes_iff,lt_passes_iff,eq_passes_iff]
    constructor
    · exact fun hlte => hlte.imp_right h
    · rintro (hlt | he)
      · exact Or.inl hlt
      · exact Or.inr (level_of_equal hv hx ho he ▸ ho)
  · rw [gt_passes_iff,lt_passes_iff,eq_passes_iff]
    refine ⟨?_,?_,?_⟩
    · rintro ⟨hgt,hlt⟩
      rw [hgt] at hlt
      cases hlt
    · rintro ⟨hgt,he⟩
      cases level_of_equal hv hx hgt he
    · rintro ⟨hlt,he⟩
      cases level_of_equal hv hx hlt he
  · rw [gt_passes_iff,lt_passes_iff,eq_passes_iff,gte_passes_iff,lte_passes_iff]
    intro hgt hlt he
    exact ⟨not_or.mpr ⟨fun hz => he (h hz),hgt⟩,not_or.mpr ⟨hlt,fun hz => he (h hz)⟩⟩

/-- The promise is kept for all but values that no order holds of. -/
theorem kept_iff (hv : v.WellFormed) (hx : x.WellFormed) (h : Comparable v x) :
    Kept v x ↔ ¬ v.UnorderedLoosely x := by
  constructor
  · intro hkept hu
    obtain ⟨o,ho⟩ := h.2
    rw [hu.looseCompare_eq hv hx ho] at ho
    exact hu.looseEqual_ne hv hx (hkept.level ho)
  · intro hu
    exact kept_of_level hv hx fun hz =>
      (Value.equal_or_unordered hv hx hz).resolve_right hu

theorem Kept.between (hx : Kept v x) (hy : Kept v y) : Between v x y := by
  intro h
  obtain ⟨hgte,hlte⟩ := between_passes_iff.mp h
  rw [gte_passes_iff] at hgte
  rw [lte_passes_iff] at hlte
  rw [gt_passes_iff,lt_passes_iff,eq_passes_iff,eq_passes_iff]
  exact ⟨hgte.symm.imp_right hx.level,hlte.imp_right hy.level⟩

theorem unordered_passes (hv : v.WellFormed) (hx : x.WellFormed) (h : Comparable v x)
    (hu : v.UnorderedLoosely x) : gte.Passes v [x] [] ∧ lte.Passes v [x] [] ∧
      ¬ eq.Passes v [x] [] ∧ ¬ gt.Passes v [x] [] ∧ ¬ lt.Passes v [x] [] := by
  obtain ⟨o,ho⟩ := h.2
  rw [hu.looseCompare_eq hv hx ho] at ho
  rw [gte_passes_iff,lte_passes_iff,eq_passes_iff,gt_passes_iff,lt_passes_iff,ho]
  exact ⟨Or.inl rfl,Or.inr rfl,hu.looseEqual_ne hv hx,by simp,by simp⟩

/-- Rules of order pass only if the order holds, for a value and two bounds that it can be
compared with, exactly if an order holds of it and either bound. A bound without one passes
for equal where equality is allowed, and fails everywhere else. -/
theorem order_rules_kept_iff (hv : v.WellFormed) (hx : x.WellFormed) (hy : y.WellFormed)
    (hvx : Comparable v x) (hvy : Comparable v y) :
    (Kept v x ∧ Kept v y ∧ Between v x y ↔ ¬ v.UnorderedLoosely x ∧ ¬ v.UnorderedLoosely y) ∧
      ∀ z ∈ [x,y], v.UnorderedLoosely z → gte.Passes v [z] [] ∧ lte.Passes v [z] [] ∧
        ¬ eq.Passes v [z] [] ∧ ¬ gt.Passes v [z] [] ∧ ¬ lt.Passes v [z] [] := by
  rw [← kept_iff hv hx hvx,← kept_iff hv hy hvy]
  refine ⟨⟨fun h => ⟨h.1,h.2.1⟩,fun h => ⟨h.1,h.2,h.1.between h.2⟩⟩,?_⟩
  intro z hz hu
  rcases List.mem_pair.mp hz with rfl | rfl
  · exact unordered_passes hv hx hvx hu
  · exact unordered_passes hv hy hvy hu

theorem order_rules_kept_iff_five :
    Kept (.int 5) (.int 1) ∧ Kept (.int 5) (.int 10) ∧ Between (.int 5) (.int 1) (.int 10) := by
  have hint {n : Int} : (Value.int n).WellFormed := .scalar rfl
  have hx : Value.looseCompare (.int 5) (.int 1) = .ok (some 1) := rfl
  have hy : Value.looseCompare (.int 5) (.int 10) = .ok (some (-1)) := rfl
  refine (order_rules_kept_iff hint hint hint ⟨⟨false,by decide +kernel⟩,_,hx⟩
    ⟨⟨false,by decide +kernel⟩,_,hy⟩).1.mpr ⟨fun hu => ?_,fun hu => ?_⟩
  · cases hu.looseCompare_eq hint hint hx
  · cases hu.looseCompare_eq hint hint hy

/-- A NaN compares as level with every number, and a set with every set that it neither is a
part of nor contains. -/
theorem unordered_not_kept :
    (Comparable (.float .nan) (.int 1) ∧ ¬ Kept (.float .nan) (.int 1)) ∧
      Comparable (.set [.int 1]) (.set [.int 2]) ∧
      ¬ Kept (.set [.int 1]) (.set [.int 2]) := by
  have hbeside {v x : Value} (heq : v.looseEqual x = .ok false)
      (hlevel : v.looseCompare x = .ok (some 0)) : Comparable v x ∧ ¬ Kept v x := by
    refine ⟨⟨⟨false,heq⟩,some 0,hlevel⟩,fun hkept => ?_⟩
    rw [hkept.level hlevel] at heq
    cases heq
  exact ⟨hbeside (by decide +kernel) rfl,hbeside (by decide +kernel) rfl⟩

/-! ## Membership -/

/-- The choices are given as one collection. -/
def IsCollection (cs : List Value) : Prop := ∃ c, cs = [c] ∧ c.members?.isSome = true

theorem choicesOf_eq (h : ¬ IsCollection cs) : choicesOf cs = cs := by
  match cs with
  | [] => rfl
  | [c] =>
      have hc : c.members? = none := by
        rw [← Option.not_isSome_iff_eq_none]
        exact fun hc => h ⟨c,rfl,hc⟩
      rw [choicesOf,hc]
      rfl
  | _ :: _ :: _ => rfl

theorem choicesOf_collection {c : Value} (hc : c = .list cs ∨ c = .tuple cs) :
    choicesOf [c] = cs := by
  rcases hc with rfl | rfl
  · rfl
  · rfl

theorem isIn_bind (args : List Value) (byName : Named Value) :
    isIn.signature.bind args byName =
      (isIn.signature.bind [] byName).map fun b => { b with rest := args } := by
  have hvariadic (args : List Value) :
      ¬ (!isIn.signature.variadic && isIn.signature.parameters.length < args.length) = true := by
    simp [isIn]
  by_cases hnames : (byName.any fun a => !isIn.signature.openNames.contains a.1) = true
  · rw [Signature.bind,Signature.bind,if_neg (hvariadic _),if_neg (hvariadic _),if_pos hnames,
      if_pos hnames]
    rfl
  · have hbind (args : List Value) : isIn.signature.bind args byName =
        (Signature.bindAll byName isIn.signature.keywords []).map fun named =>
          ⟨[],args,named⟩ := by
      rw [Signature.bind,if_neg (hvariadic _),if_neg hnames]
      cases Signature.bindAll byName isIn.signature.keywords [] <;> rfl
    rw [hbind,hbind]
    cases Signature.bindAll byName isIn.signature.keywords [] <;> rfl

theorem isIn_run_congr {given rest rest' named : List Value}
    (h : choicesOf rest = choicesOf rest') (v : Value) :
    isIn.run v ⟨given,rest,named⟩ = isIn.run v ⟨given,rest',named⟩ := by
  simp only [isIn,h]

/-- Only the choices count, however they are given. -/
theorem isIn_call_congr {args args' : List Value} (h : choicesOf args = choicesOf args')
    (v : Value) (byName : Named Value) : isIn.call v args byName = isIn.call v args' byName := by
  rw [Rule.call,Rule.call,isIn_bind,isIn_bind args']
  cases isIn.signature.bind [] byName with
  | error f => rfl
  | ok b => exact isIn_run_congr h v

theorem isIn_run_iff {s message : Value} {p : Bool} {name : String} {fields : Named Value} :
    isIn.run v ⟨[],cs,[s]⟩ = .ok (.verdict p message name fields) ↔
      isOneOf s.toBool v (choicesOf cs) = .ok p ∧ ∃ t, listed (choicesOf cs) = .ok t ∧
        message = .null ∧ name = "in" ∧ fields = [("x",.text t)] := by
  simp only [isIn]
  cases isOneOf s.toBool v (choicesOf cs) with
  | error f => simp [orFail,Bind.bind,Except.bind]
  | ok found =>
      cases listed (choicesOf cs) with
      | error f => simp [orFail,Bind.bind,Except.bind]
      | ok t =>
          simp only [orFail,Bind.bind,Except.bind,Except.ok.injEq,Outcome.verdict.injEq]
          constructor
          · rintro ⟨rfl,rfl,rfl,rfl⟩
            exact ⟨rfl,t,rfl,rfl,rfl,rfl⟩
          · rintro ⟨rfl,_,rfl,rfl,rfl,rfl⟩
            exact ⟨rfl,rfl,rfl,rfl⟩

theorem holdsOfOne_iff {test : Value → Except Fault Bool} {b : Bool}
    (h : Value.holdsOfOne test cs = .ok b) : b = true ↔ ∃ c ∈ cs, test c = .ok true := by
  induction cs with
  | nil =>
      cases h
      simp
  | cons c cs ih =>
      rw [Value.holdsOfOne] at h
      cases hc : test c with
      | error f => simp [hc,Bind.bind,Except.bind] at h
      | ok d =>
          cases d with
          | true =>
              rw [hc] at h
              cases h
              simp [hc]
          | false =>
              rw [hc] at h
              simpa [hc] using ih h

/-- The argument by which membership is asked for strictly. -/
def strictly : Named Value := [("strict",.bool true)]

theorem isIn_judges_iff {s : Value} {byName : Named Value}
    (hcall : isIn.call v cs byName = isIn.run v ⟨[],cs,[s]⟩) : isIn.Judges v cs byName ↔
      (∃ b, isOneOf s.toBool v (choicesOf cs) = .ok b) ∧ ∃ t, listed (choicesOf cs) = .ok t := by
  simp only [Rule.Judges,hcall,isIn_run_iff]
  constructor
  · rintro ⟨p,-,-,-,hp,t,ht,-⟩
    exact ⟨⟨p,hp⟩,t,ht⟩
  · rintro ⟨⟨p,hp⟩,t,ht⟩
    exact ⟨p,_,_,_,hp,t,ht,rfl,rfl,rfl⟩

theorem isIn_passes_iff {s : Value} {byName : Named Value}
    (hcall : isIn.call v cs byName = isIn.run v ⟨[],cs,[s]⟩) : isIn.Passes v cs byName ↔
      isOneOf s.toBool v (choicesOf cs) = .ok true ∧ ∃ t, listed (choicesOf cs) = .ok t := by
  simp only [Rule.Passes,hcall,isIn_run_iff]
  constructor
  · rintro ⟨-,-,-,hp,t,ht,-⟩
    exact ⟨hp,t,ht⟩
  · rintro ⟨hp,t,ht⟩
    exact ⟨_,_,_,hp,t,ht,rfl,rfl,rfl⟩

theorem equal_of_passes (h : seq.Passes v [x] []) : eq.Passes v [x] [] := by
  obtain ⟨hkind,he⟩ := seq_passes_iff.mp h
  exact eq_passes_iff.mpr (Value.looseEqual_of_equals hkind he)

/-- Where membership comes to a verdict, it is equality with one of the choices, strict
membership is strict equality, and so it is membership all the more. -/
theorem isIn_member (h : ¬ IsCollection cs) (hj : isIn.Judges v cs []) :
    isIn.Passes v cs [] ↔ ∃ c ∈ cs, eq.Passes v [c] [] := by
  have hcall : isIn.call v cs [] = isIn.run v ⟨[],cs,[.bool false]⟩ := rfl
  obtain ⟨⟨b,hb⟩,hlisted⟩ := (isIn_judges_iff hcall).mp hj
  rw [isIn_passes_iff hcall,and_iff_left hlisted,hb,Except.ok.injEq]
  rw [choicesOf_eq h] at hb
  simp only [eq_passes_iff]
  exact holdsOfOne_iff hb

theorem isIn_strictly (h : ¬ IsCollection cs) (hj : isIn.Judges v cs strictly) :
    isIn.Passes v cs strictly ↔ ∃ c ∈ cs, seq.Passes v [c] [] := by
  have hcall : isIn.call v cs strictly = isIn.run v ⟨[],cs,[.bool true]⟩ := rfl
  obtain ⟨⟨b,hb⟩,hlisted⟩ := (isIn_judges_iff hcall).mp hj
  rw [isIn_passes_iff hcall,and_iff_left hlisted,hb,Except.ok.injEq]
  rw [choicesOf_eq h] at hb
  have hseq (c : Value) : seq.Passes v [c] [] ↔ identical v c = .ok true := passes_of_orFail
  simp only [hseq]
  exact holdsOfOne_iff hb

/-- Strict equality is loose equality, and membership is equality with one of the choices: the
loose one, or the strict one if that is asked for. So strict membership is membership. It makes
no difference whether the choices are given one by one or as one list or tuple. -/
theorem membership_laws (h : ¬ IsCollection cs) :
    (∀ x, seq.Passes v [x] [] → eq.Passes v [x] []) ∧
      (isIn.Judges v cs [] → (isIn.Passes v cs [] ↔ ∃ c ∈ cs, eq.Passes v [c] [])) ∧
      (isIn.Judges v cs strictly →
        (isIn.Passes v cs strictly ↔ ∃ c ∈ cs, seq.Passes v [c] [])) ∧
      (isIn.Judges v cs [] → isIn.Passes v cs strictly → isIn.Passes v cs []) ∧
      ∀ c, c = .list cs ∨ c = .tuple cs → ∀ byName,
        isIn.call v [c] byName = isIn.call v cs byName := by
  refine ⟨fun x => equal_of_passes,isIn_member h,isIn_strictly h,?_,?_⟩
  · intro hj hpasses
    have hj' : isIn.Judges v cs strictly := ⟨true,hpasses⟩
    obtain ⟨c,hc,hpasses⟩ := (isIn_strictly h hj').mp hpasses
    exact (isIn_member h hj).mpr ⟨c,hc,equal_of_passes hpasses⟩
  · intro c hc byName
    refine isIn_call_congr ?_ v byName
    rw [choicesOf_collection hc,choicesOf_eq h]

/-- A text that denotes a number is one of the choices, but not strictly. -/
theorem membership_laws_text :
    isIn.Passes (.text "1") [.list [.text "a",.int 1]] [] ∧
      ¬ isIn.Passes (.text "1") [.text "a",.int 1] strictly := by
  have hmany : ¬ IsCollection [.text "a",.int 1] := by
    rintro ⟨c,hc,-⟩
    cases hc
  have hlisted : ∃ t, listed (choicesOf [.text "a",.int 1]) = .ok t := ⟨"a, 1",by decide +kernel⟩
  have hj : isIn.Judges (.text "1") [.text "a",.int 1] [] :=
    (isIn_judges_iff (s := .bool false) rfl).mpr ⟨⟨true,by decide +kernel⟩,hlisted⟩
  have hj' : isIn.Judges (.text "1") [.text "a",.int 1] strictly :=
    (isIn_judges_iff (s := .bool true) rfl).mpr ⟨⟨false,by decide +kernel⟩,hlisted⟩
  obtain ⟨-,hloose,hstrict,-,hcollection⟩ := membership_laws (v := .text "1") hmany
  constructor
  · rw [Rule.Passes,hcollection _ (Or.inl rfl)]
    exact (hloose hj).mpr ⟨.int 1,by simp,eq_passes_iff.mpr (by decide +kernel)⟩
  · rw [hstrict hj']
    rintro ⟨c,hc,hpasses⟩
    obtain ⟨hkind,he⟩ := seq_passes_iff.mp hpasses
    rcases List.mem_pair.mp hc with rfl | rfl
    · exact absurd he (by rw [Value.Equals]; decide +kernel)
    · cases hkind

end

end Rules

end Vetting
