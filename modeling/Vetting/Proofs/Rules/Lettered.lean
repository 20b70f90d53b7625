import Vetting.Proofs.Pattern.Splice
import Vetting.Proofs.Rules.Comparison
import Vetting.Proofs.Rules.Contract

/-!
# Letters and more

Two rules pass texts of letters and blanks, one of them digits as well, and take further
characters. These are put between the letters and a blank, so they stand for themselves unless a
hyphen is the last one of several: then the blank is the end of a range.
-/
namespace Vetting.Rules
open Text Pattern
variable {mail : MailReader}

/-- The rules on letters to which characters can be added. -/
inductive Lettering where
  | alpha | alphanumeric

namespace Lettering

def name : Lettering → String
  | .alpha => "alpha"
  | .alphanumeric => "alphanumeric"

def rule : Lettering → Rule
  | .alpha => Rules.alpha
  | .alphanumeric => Rules.alphanumeric

/-- What stands in the class in front of the characters that are added. -/
def letters : Lettering → List Char
  | .alpha => ['a','-','z','A','-','Z']
  | .alphanumeric => ['a','-','z','A','-','Z','0','-','9']

def items : Lettering → List ClassItem
  | .alpha => [.range 97 122,.range 65 90]
  | .alphanumeric => [.range 97 122,.range 65 90,.range 48 57]

/-- The characters that pass without any being added, blanks apart. -/
def Has (c : Char) : Lettering → Bool
  | .alpha => isAsciiLetter c
  | .alphanumeric => isAsciiAlnum c

/-- Added characters extend the rule by themselves and nothing else: it comes to a verdict on
every value that has a text, and passes texts that are not empty and have characters of its own,
blanks and added ones only. -/
def Extends (k : Lettering) (added : String) : Prop :=
  ∀ v t, v.toText = .ok t → k.rule.Judges v [.text added] [] ∧
    (k.rule.Passes v [.text added] [] ↔
      v ≠ .null ∧ t ≠ "" ∧ ∀ c ∈ t.toList, k.Has c = true ∨ c = ' ' ∨ c ∈ added.toList)

/-- A text has a hyphen in no place but the last one. -/
def HyphenLast (s : List Char) : Prop := ∀ u w, s = u ++ '-' :: w → w = []

/-- The character in front of a hyphen at the end makes a range with the blank behind it: if it
is behind the blank itself the rule fails on every value but null, else it passes what is in the
range in the place of the character and the hyphen. -/
def Ranges (k : Lettering) (added : String) (s : List Char) (c : Char) : Prop :=
  ∀ v t, v ≠ .null → v.toText = .ok t →
    (' ' < c → k.rule.call v [.text added] [] = .error (.fault .badPattern)) ∧
    (c ≤ ' ' → k.rule.Judges v [.text added] [] ∧ (k.rule.Passes v [.text added] [] ↔
      t ≠ "" ∧ ∀ x ∈ t.toList, k.Has x = true ∨ x ∈ s ∨ c ≤ x ∧ x ≤ ' '))

section
variable {k : Lettering} {v : Value} {t added : String} {s : List Char} {K : CharClass}
  {f : Fault} {c x : Char}

theorem get?_name (k : Lettering) : (standard mail).get? k.name = some k.rule :=
  get?_of_listed (by cases k <;> simp [name,rule,transformers,validators])

/-! ## The class of a rule -/

/-- What follows the opening bracket of the pattern. -/
def inside (k : Lettering) (s : List Char) : List Char := k.letters ++ s ++ [' '] ++ [']','+']

theorem among_items (k : Lettering) (c : Char) : among k.items c = k.Has c := by
  cases k with
  | alpha =>
      simp only [items,among_cons,contains_range,Has]
      exact congrArg _ (Bool.or_false _)
  | alphanumeric =>
      simp only [items,among_cons,contains_range,Has,← Bool.or_assoc]
      exact Bool.or_false _

theorem classItems_letters (k : Lettering) (fuel : Nat) (rest : List Token) :
    classItems (fuel + k.items.length) true (k.letters.map .plain ++ rest) =
      inFront k.items (classItems fuel false rest) := by
  cases k with
  | alpha =>
      show classItems (fuel + 2) true (.plain 'a' :: .plain '-' :: .plain 'z' :: .plain 'A' ::
        .plain '-' :: .plain 'Z' :: rest) = _
      rw [classItems_range (by decide) (by decide),if_pos (by decide),
        classItems_range (by decide) (by decide),if_pos (by decide),inFront_append]
      rfl
  | alphanumeric =>
      show classItems (fuel + 3) true (.plain 'a' :: .plain '-' :: .plain 'z' :: .plain 'A' ::
        .plain '-' :: .plain 'Z' :: .plain '0' :: .plain '-' :: .plain '9' :: rest) = _
      rw [classItems_range (by decide) (by decide),if_pos (by decide),
        classItems_range (by decide) (by decide),if_pos (by decide),
        classItems_range (by decide) (by decide),if_pos (by decide),inFront_append,inFront_append]
      rfl

/-- The class is read as the letters, and then what is added with a blank behind it. -/
theorem read_inside (k : Lettering) (hs : '\\' ∉ s) :
    ∃ fuel, CharClass.read (tokens (k.inside s)) =
      Except.map (fun r => (CharClass.mk false r.1,r.2)) (inFront k.items
        (classItems (fuel + 4 + s.length) false
          (s.map .plain ++ [.plain ' ',.plain ']',.plain '+']))) := by
  have hescape : '\\' ∉ k.inside s := by
    cases k <;> simp [inside,letters,hs]
  have htokens : tokens (k.inside s) =
      k.letters.map .plain ++ (s.map .plain ++ [.plain ' ',.plain ']',.plain '+']) := by
    rw [tokens_eq_map hescape,inside]
    simp
  obtain ⟨fuel,hfuel⟩ : ∃ fuel, (tokens (k.inside s)).length + 1 =
      fuel + 4 + s.length + k.items.length := by
    rw [htokens]
    cases k with
    | alpha => exact ⟨4,by simp [letters,items]; omega⟩
    | alphanumeric => exact ⟨6,by simp [letters,items]; omega⟩
  refine ⟨fuel,?_⟩
  rw [← classItems_letters,← hfuel,← htokens,CharClass.read.eq_2]
  · cases classItems ((tokens (k.inside s)).length + 1) true (tokens (k.inside s)) <;> rfl
  · rw [htokens]
    intro rest h
    cases k <;> exact absurd (Token.plain.inj (List.cons.inj h).1) (by decide)

/-- Characters other than hyphens stand for themselves, and so does a hyphen alone. -/
theorem read_points (k : Lettering) (hs : '\\' ∉ s) (hclose : ']' ∉ s)
    (hhyphen : '-' ∉ s ∨ s = ['-']) : CharClass.read (tokens (k.inside s)) =
      .ok (⟨false,k.items ++ (s.map (fun x => .point x.toNat) ++ [.point 32])⟩,[.plain '+']) := by
  obtain ⟨fuel,hread⟩ := k.read_inside hs
  have hend : ∀ fuel, classItems (fuel + 2) false [.plain ' ',.plain ']',.plain '+'] =
    .ok ([.point 32],[.plain '+']) := fun _ => rfl
  have hitems : classItems (fuel + 4 + s.length) false
      (s.map .plain ++ [.plain ' ',.plain ']',.plain '+']) =
        .ok (s.map (fun x => .point x.toNat) ++ [.point 32],[.plain '+']) := by
    rcases hhyphen with hnot | rfl
    · rw [classItems_points _ fun _ => by decide,hend]
      · rfl
      · exact fun x hx => ⟨fun h => hclose (h ▸ hx),fun h => hnot (h ▸ hx)⟩
    · show classItems (fuel + 4 + 1) false [.plain '-',.plain ' ',.plain ']',.plain '+'] = _
      rw [classItems_unit (by decide) (by decide),hend]
      rfl
  rw [hread,hitems]
  rfl

/-- Behind a character, a hyphen makes a range up to the blank. -/
theorem read_range (k : Lettering) (hs : '\\' ∉ s ++ [c,'-']) (hclose : ']' ∉ s ++ [c,'-'])
    (hhyphen : '-' ∉ s ++ [c]) : CharClass.read (tokens (k.inside (s ++ [c,'-']))) =
      if c.toNat ≤ 32 then
        .ok (⟨false,k.items ++ (s.map (fun x => .point x.toNat) ++ [.range c.toNat 32])⟩,
          [.plain '+'])
      else .error .badPattern := by
  obtain ⟨fuel,hread⟩ := k.read_inside hs
  have hc : c ≠ ']' := by
    rintro rfl
    exact hclose (by simp)
  have hend : ∀ fuel, classItems (fuel + 1) false [.plain ']',.plain '+'] =
    .ok ([],[.plain '+']) := fun _ => rfl
  have hpoints : ∀ x ∈ s, x ≠ ']' ∧ x ≠ '-' := by
    refine fun x hx => ⟨?_,?_⟩
    · rintro rfl
      exact hclose (List.mem_append_left _ hx)
    · rintro rfl
      exact hhyphen (List.mem_append_left _ hx)
  have hnext : (Token.plain c :: [.plain '-',.plain ' ',.plain ']',.plain '+']).head? ≠
      some (.plain '-') := by
    rintro ⟨⟩
    exact hhyphen (by simp)
  have htokens : (s ++ [c,'-']).map Token.plain ++ [.plain ' ',.plain ']',.plain '+'] =
    s.map .plain ++ [.plain c,.plain '-',.plain ' ',.plain ']',.plain '+'] := by simp
  have hfuel : fuel + 4 + (s ++ [c,'-']).length = fuel + 6 + s.length := by
    rw [List.length_append]
    simp only [List.length_cons,List.length_nil]
    omega
  rw [hread,htokens,hfuel,classItems_points hpoints fun _ => hnext,
    classItems_range hc (by decide),hend,show ' '.toNat = 32 from rfl]
  by_cases hle : c.toNat ≤ 32
  · rw [if_pos hle,if_pos hle]
    simp [inFront,Except.map]
  · rw [if_neg hle,if_neg hle]
    rfl

theorem HyphenLast.notMem (h : HyphenLast (s ++ [c,'-'])) : '-' ∉ s ++ [c] := by
  intro hmem
  obtain ⟨u,w,hu⟩ := List.append_of_mem hmem
  have hsplit : s ++ [c,'-'] = u ++ '-' :: (w ++ ['-']) := by
    rw [← List.singleton_append,← List.append_assoc,hu,List.append_assoc,List.cons_append]
  exact absurd (h u _ hsplit) (by simp)

theorem hyphenLast_concat (h : '-' ∉ s) : HyphenLast (s ++ ['-']) := by
  intro u w hsplit
  rcases List.eq_nil_or_concat w with rfl | ⟨w,x,rfl⟩
  · rfl
  · rw [List.concat_eq_append,← List.cons_append,← List.append_assoc] at hsplit
    have hs : s = u ++ '-' :: w := (List.append_inj' hsplit rfl).1
    exact absurd (hs ▸ List.mem_append_right u List.mem_cons_self) h

/-- A text with a hyphen in the last place at most has none, or is one, or has a character in
front of it. -/
theorem HyphenLast.cases (h : HyphenLast s) :
    ('-' ∉ s ∨ s = ['-']) ∨ ∃ u c, s = u ++ [c,'-'] := by
  by_cases hs : '-' ∈ s
  · obtain ⟨u,w,rfl⟩ := List.append_of_mem hs
    cases h u w rfl
    rcases List.eq_nil_or_concat u with rfl | ⟨u,c,rfl⟩
    · exact Or.inl (Or.inr rfl)
    · exact Or.inr ⟨u,c,by simp⟩
  · exact Or.inl (Or.inl hs)

theorem among_append (is js : List ClassItem) (x : Char) :
    among (is ++ js) x = (among is x || among js x) := List.any_append

theorem among_points_iff (s : List Char) (x : Char) :
    among (s.map fun y => .point y.toNat) x = true ↔ x ∈ s := by
  rw [among,List.any_map,List.any_eq_true]
  constructor
  · rintro ⟨y,hy,hpoint⟩
    exact Char.toNat_inj.mp (of_decide_eq_true hpoint) ▸ hy
  · exact fun hx => ⟨x,hx,decide_eq_true rfl⟩

/-- What the class has with further items behind what is added. -/
theorem contains_iff (k : Lettering) (s : List Char) (last : ClassItem) (x : Char) :
    (CharClass.mk false (k.items ++ (s.map (fun y => .point y.toNat) ++ [last]))).contains
        .plain x = true ↔ k.Has x = true ∨ x ∈ s ∨ last.contains .plain x = true := by
  rw [contains_eq,Bool.bne_false,among_append,among_append,among_items,among_cons,
    Bool.or_eq_true,Bool.or_eq_true,Bool.or_eq_true,among_points_iff]
  exact or_congr_right (or_congr_right (or_iff_left nofun))

/-! ## The rule -/

theorem rule_call (k : Lettering) (v : Value) (added : String) :
    k.rule.call v [.text added] [] =
      orFail (matchesPattern ('[' :: k.inside added.toList) v) >>= fun matched =>
        .ok (.verdict matched .null k.name []) := by
  cases k <;> rfl

theorem matchesPattern_of_ne_null (hv : v ≠ .null) (pattern : List Char) :
    matchesPattern pattern v = v.toText >>= fun t => Regex.parse pattern >>= fun p =>
      .ok (p.matchesAll t.toList) := by
  cases v <;> first | rfl | exact absurd rfl hv

/-- With a class that can be read, the rule passes texts of it that are not empty. -/
theorem judges_of_read (ht : v.toText = .ok t)
    (h : CharClass.read (tokens (k.inside added.toList)) = .ok (K,[.plain '+'])) :
    k.rule.Judges v [.text added] [] ∧ (k.rule.Passes v [.text added] [] ↔
      v ≠ .null ∧ t ≠ "" ∧ ∀ x ∈ t.toList, K.contains .plain x = true) := by
  by_cases hv : v = .null
  · subst hv
    have hcall : k.rule.call .null [.text added] [] = .ok (.verdict false .null k.name []) :=
      k.rule_call .null added
    refine ⟨⟨_,_,_,_,hcall⟩,iff_of_false ?_ fun hpass => hpass.1 rfl⟩
    rintro ⟨_,_,_,hpass⟩
    exact nomatch hcall.symm.trans hpass
  · have hcall : k.rule.call v [.text added] [] =
        .ok (.verdict ((Regex.ofSeveral K).matchesAll t.toList) .null k.name []) := by
      rw [rule_call,matchesPattern_of_ne_null hv,ht,parse_several h]
      rfl
    have hempty : t.toList ≠ [] ↔ t ≠ "" := not_congr String.toList_eq_nil_iff
    refine ⟨⟨_,_,_,_,hcall⟩,Iff.trans ?_ (and_iff_right hv).symm⟩
    rw [← hempty,← matchesAll_ofSeveral]
    simp only [Rule.Passes,hcall,Except.ok.injEq,Outcome.verdict.injEq]
    constructor
    · rintro ⟨_,_,_,hmatches,-⟩
      exact hmatches
    · exact fun hmatches => ⟨_,_,_,hmatches,rfl,rfl,rfl⟩

theorem call_of_read_error (hv : v ≠ .null) (ht : v.toText = .ok t)
    (h : CharClass.read (tokens (k.inside added.toList)) = .error f) :
    k.rule.call v [.text added] [] = .error (.fault f) := by
  rw [rule_call,matchesPattern_of_ne_null hv,ht,parse_class_error h]
  rfl

theorem ranges_of_hyphen (hclose : ']' ∉ added.toList) (hescape : '\\' ∉ added.toList)
    (hhyphen : HyphenLast added.toList) (hadded : added.toList = s ++ [c,'-']) :
    k.Ranges added s c := by
  rw [hadded] at hclose hescape hhyphen
  have hread := k.read_range hescape hclose hhyphen.notMem
  rw [← hadded] at hread
  intro v t hv ht
  constructor
  · intro hlt
    rw [if_neg (show ¬ c.toNat ≤ 32 from Nat.not_le.mpr hlt)] at hread
    exact call_of_read_error hv ht hread
  · intro hle
    rw [if_pos (show c.toNat ≤ 32 from hle)] at hread
    obtain ⟨hjudges,hpasses⟩ := judges_of_read ht hread
    refine ⟨hjudges,hpasses.trans ((and_iff_right hv).trans (and_congr_right fun _ =>
      forall₂_congr fun x _ => (k.contains_iff s _ x).trans ?_))⟩
    rw [contains_range,Bool.and_eq_true,decide_eq_true_eq,decide_eq_true_eq]
    rfl

theorem Ranges.not_extends (h : k.Ranges added s c) (hadded : added.toList = s ++ [c,'-'])
    (hhyphen : '-' ∉ s ++ [c]) : ¬ k.Extends added := by
  intro hextends
  rcases lt_or_ge ' ' c with hlt | hle
  -- Out of order there is no verdict on anything; in order there is one against a hyphen.
  · obtain ⟨⟨_,_,_,_,hjudges⟩,-⟩ := hextends (.text "a") "a" rfl
    exact nomatch hjudges.symm.trans ((h (.text "a") "a" nofun rfl).1 hlt)
  · have hpasses : k.rule.Passes (.text "-") [.text added] [] :=
      (hextends (.text "-") "-" rfl).2.mpr ⟨nofun,by decide,fun x hx => by
        have hx : x = '-' := List.mem_singleton.mp hx
        rw [hx,hadded]
        simp⟩
    obtain ⟨-,hall⟩ := ((h (.text "-") "-" nofun rfl).2 hle).2.mp hpasses
    rcases hall '-' List.mem_cons_self with hhas | hmem | ⟨-,hle⟩
    · cases k <;> exact absurd hhas (by decide)
    · exact hhyphen (List.mem_append_left _ hmem)
    · exact absurd hle (by decide)

/-- Added characters without brackets and backslashes, and with a hyphen at the end at most,
extend the rule by themselves and nothing else, unless there is a hyphen at the end and it is not
alone. Then it does not stand for itself: it makes a range of the character before it and the
blank, or no class at all. A value that has no text fails anyway. -/
theorem extends_iff (mail : MailReader) (k : Lettering) (hclose : ']' ∉ added.toList)
    (hescape : '\\' ∉ added.toList) (hhyphen : HyphenLast added.toList) :
    (standard mail).get? k.name = some k.rule ∧
    (∀ v, k.rule.call v [] [] = k.rule.call v [.text ""] []) ∧
    (k.Extends added ↔ ¬ ∃ s c, added.toList = s ++ [c,'-']) ∧
    (∀ s c, added.toList = s ++ [c,'-'] → k.Ranges added s c) ∧
    ∀ v f, v ≠ .null → v.toText = .error f →
      k.rule.call v [.text added] [] = .error (.fault f) := by
  have hranges : ∀ s c, added.toList = s ++ [c,'-'] → k.Ranges added s c := fun s c hadded =>
    ranges_of_hyphen hclose hescape hhyphen hadded
  refine ⟨k.get?_name,fun v => by cases k <;> rfl,⟨?_,fun hnot v t ht => ?_⟩,hranges,
    fun v f hv ht => ?_⟩
  · rintro hextends ⟨s,c,hadded⟩
    have hbefore : '-' ∉ s ++ [c] := (hadded ▸ hhyphen : HyphenLast (s ++ [c,'-'])).notMem
    exact (hranges s c hadded).not_extends hadded hbefore hextends
  · have hread := k.read_points hescape hclose (hhyphen.cases.resolve_right hnot)
    refine (judges_of_read ht hread).imp_right fun hpasses => hpasses.trans ?_
    refine and_congr_right fun _ => and_congr_right fun _ => forall₂_congr fun x _ => ?_
    rw [contains_iff,contains_point,decide_eq_true_eq,show 32 = ' '.toNat from rfl,Char.toNat_inj]
    exact or_congr_right or_comm
  · rw [rule_call,matchesPattern_of_ne_null hv,ht]
    rfl

/-- A hyphen that is added alone stands for itself. -/
theorem extends_iff_hyphen : ']' ∉ "-".toList ∧ '\\' ∉ "-".toList ∧ HyphenLast "-".toList ∧
    Lettering.alpha.Extends "-" ∧ Rules.alpha.Passes (.text "a-b") [.text "-"] [] := by
  have hclose : ']' ∉ "-".toList := by decide
  have hescape : '\\' ∉ "-".toList := by decide
  have hlast : HyphenLast "-".toList := hyphenLast_concat List.not_mem_nil
  have halone : ¬ ∃ s c, "-".toList = s ++ [c,'-'] := by
    rintro ⟨s,c,h⟩
    have hlen := congrArg List.length h
    simp at hlen
  have hextends : Lettering.alpha.Extends "-" :=
    (extends_iff .none .alpha hclose hescape hlast).2.2.1.mpr halone
  have hchars : ∀ c ∈ ['a','-','b'],
      Lettering.alpha.Has c = true ∨ c = ' ' ∨ c ∈ "-".toList :=
    List.forall_mem_cons.mpr ⟨Or.inl rfl,List.forall_mem_cons.mpr
      ⟨Or.inr (Or.inr List.mem_cons_self),List.forall_mem_singleton.mpr (Or.inl rfl)⟩⟩
  exact ⟨hclose,hescape,hlast,hextends,
    (hextends (.text "a-b") "a-b" rfl).2.mpr ⟨nofun,by decide,hchars⟩⟩

/-- A hyphen behind a low line makes a range that is not in order. -/
theorem not_extends_low_line : ']' ∉ "_-".toList ∧ '\\' ∉ "_-".toList ∧ HyphenLast "_-".toList ∧
    Rules.alpha.call (.text "a-b") [.text "_-"] [] = .error (.fault .badPattern) ∧
      ¬ Lettering.alpha.Extends "_-" := by
  have hcall : Rules.alpha.call (.text "a-b") [.text "_-"] [] = .error (.fault .badPattern) := rfl
  have hbefore : '-' ∉ ['_'] := by decide
  refine ⟨by decide,by decide,hyphenLast_concat hbefore,hcall,fun hextends => ?_⟩
  obtain ⟨⟨_,_,_,_,hjudges⟩,-⟩ := hextends (.text "a-b") "a-b" rfl
  exact nomatch hjudges.symm.trans hcall

end
end Lettering
end Vetting.Rules
