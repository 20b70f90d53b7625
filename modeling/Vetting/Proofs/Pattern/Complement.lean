import Vetting.Proofs.Pattern.Reading

/-!
# Classes and their complements

A circumflex in front of what stands between the brackets of a class turns the class into its
complement, but for one case. Where there is a circumflex already, a second one does not turn
the complement back: it is a character of the class, or the lower end of a range.
-/
namespace Vetting.Pattern

/-- A text is what stands between the brackets of a class: the class is read from it, and the
closing bracket is where it ends. -/
def IsClass (k : List Char) (K : CharClass) : Prop :=
  CharClass.read (tokens (k ++ [']'])) = .ok (K,[])

/-- How the items of a class are read, up to the bracket that closes it. The bracket closes a
class only if it is not the first of its characters. -/
inductive Reads : Bool → List Token → List ClassItem → List Token → Prop
  | close (rest : List Token) : Reads false (.plain ']' :: rest) [] rest
  | hyphen {first : Bool} {ts rest : List Token} {item : ClassItem} :
      (first = false → ts.head? ≠ some (.plain ']')) →
      classUnit ts = .ok (item,.plain '-' :: .plain ']' :: rest) →
      Reads first ts [item,.point 45] rest
  | range {first : Bool} {ts rest rest' left : List Token} {item other range : ClassItem}
      {items : List ClassItem} :
      (first = false → ts.head? ≠ some (.plain ']')) →
      classUnit ts = .ok (item,.plain '-' :: rest) → rest.head? ≠ some (.plain ']') →
      classUnit rest = .ok (other,rest') → rangeOf item other = .ok range →
      Reads false rest' items left → Reads first ts (range :: items) left
  | unit {first : Bool} {ts rest left : List Token} {item : ClassItem} {items : List ClassItem} :
      (first = false → ts.head? ≠ some (.plain ']')) →
      classUnit ts = .ok (item,rest) → rest.head? ≠ some (.plain '-') →
      Reads false rest items left → Reads first ts (item :: items) left

section
variable {k : List Char} {K N : CharClass} {ts rest left : List Token} {fuel : Nat} {first : Bool}
  {c : Char} {item other : ClassItem} {items items' : List ClassItem}

theorem reads_of_classItems (h : classItems fuel first ts = .ok (items,left)) :
    Reads first ts items left := by
  induction fuel generalizing first ts items left with
  | zero => cases h
  | succ fuel ih =>
      by_cases hclose : first = false ∧ ts.head? = some (.plain ']')
      · obtain ⟨rfl,hhead⟩ := hclose
        obtain ⟨rest,rfl⟩ := List.head?_eq_some_iff.mp hhead
        cases h
        exact .close left
      have hopen : first = false → ts.head? ≠ some (.plain ']') := fun hf hh => hclose ⟨hf,hh⟩
      rw [classItems.eq_3 _ _ _ (fun rest hf ht => hopen hf (by rw [ht]; rfl))] at h
      obtain ⟨⟨item,rest⟩,hunit,h⟩ := exists_of_bind h
      dsimp only at h
      split at h
      · cases h
        exact .hyphen hopen hunit
      · rename_i rest hnot
        have hhead : rest.head? ≠ some (.plain ']') := fun hr => by
          obtain ⟨rest',rfl⟩ := List.head?_eq_some_iff.mp hr
          exact hnot rest' rfl
        obtain ⟨r,hother,h⟩ := exists_of_bind h
        obtain ⟨range,hrange,h⟩ := exists_of_bind h
        obtain ⟨r',hitems,h⟩ := exists_of_bind h
        cases h
        exact .range hopen hunit hhead hother hrange (ih hitems)
      · rename_i hnot
        have hhead : rest.head? ≠ some (.plain '-') := fun hr => by
          obtain ⟨rest',rfl⟩ := List.head?_eq_some_iff.mp hr
          exact hnot rest' rfl
        obtain ⟨r,hitems,h⟩ := exists_of_bind h
        cases h
        exact .unit hopen hunit hhead (ih hitems)

/-- Whether a bracket may close the class makes a difference only where there is one. -/
theorem Reads.free (h : Reads true ts items left) (hhead : ts.head? ≠ some (.plain ']')) :
    Reads false ts items left := by
  cases h with
  | hyphen _ hunit => exact .hyphen (fun _ => hhead) hunit
  | range _ hunit hrest hother hrange hitems =>
      exact .range (fun _ => hhead) hunit hrest hother hrange hitems
  | unit _ hunit hrest hitems => exact .unit (fun _ => hhead) hunit hrest hitems

/-- Where the bracket is that closes a class, whatever ranges are made on the way. -/
inductive Closes : List Token → List Token → Prop
  | bracket (rest : List Token) : Closes (.plain ']' :: rest) rest
  | unit {ts rest left : List Token} {item : ClassItem} : ts.head? ≠ some (.plain ']') →
      classUnit ts = .ok (item,rest) → Closes rest left → Closes ts left

theorem Reads.closes (h : Reads first ts items left)
    (hopen : first = true → ts.head? ≠ some (.plain ']')) : Closes ts left := by
  have hyphen : ∀ {rest left : List Token}, Closes rest left →
      Closes (.plain '-' :: rest) left := fun h => .unit (by simp) rfl h
  have hall : ∀ {first : Bool} {ts : List Token}, (first = true → ts.head? ≠ some (.plain ']')) →
      (first = false → ts.head? ≠ some (.plain ']')) → ts.head? ≠ some (.plain ']') := by
    intro first ts htrue hfalse
    cases first with
    | true => exact htrue rfl
    | false => exact hfalse rfl
  induction h with
  | close rest => exact .bracket rest
  | hyphen hfree hunit => exact .unit (hall hopen hfree) hunit (hyphen (.bracket _))
  | range hfree hunit hrest hother _ _ ih =>
      exact .unit (hall hopen hfree) hunit (hyphen (.unit hrest hother (ih nofun)))
  | unit hfree hunit _ _ ih => exact .unit (hall hopen hfree) hunit (ih nofun)

theorem Closes.unique {left' : List Token} (h : Closes ts left) (h' : Closes ts left') :
    left = left' := by
  induction h with
  | bracket rest =>
      cases h' with
      | bracket => rfl
      | unit hopen => exact absurd rfl hopen
  | unit hopen hunit _ ih =>
      cases h' with
      | bracket => exact absurd rfl hopen
      | unit _ hunit' hrest =>
          cases hunit.symm.trans hunit'
          exact ih hrest

/-- The items are settled by what they are read from. -/
theorem Reads.unique (h : Reads first ts items left) (h' : Reads first ts items' left) :
    items = items' := by
  induction h generalizing items' with
  | close rest =>
      cases h' with
      | close => rfl
      | hyphen hopen => exact absurd rfl (hopen rfl)
      | range hopen => exact absurd rfl (hopen rfl)
      | unit hopen => exact absurd rfl (hopen rfl)
  | hyphen hopen hunit =>
      cases h' with
      | close => exact absurd rfl (hopen rfl)
      | hyphen _ hunit' =>
          cases hunit.symm.trans hunit'
          rfl
      | range _ hunit' hrest =>
          cases hunit.symm.trans hunit'
          exact absurd rfl hrest
      | unit _ hunit' hrest =>
          cases hunit.symm.trans hunit'
          exact absurd rfl hrest
  | range hopen hunit hrest hother hrange _ ih =>
      cases h' with
      | close => exact absurd rfl (hopen rfl)
      | hyphen _ hunit' =>
          cases hunit.symm.trans hunit'
          exact absurd rfl hrest
      | range _ hunit' _ hother' hrange' hitems' =>
          cases hunit.symm.trans hunit'
          cases hother.symm.trans hother'
          cases hrange.symm.trans hrange'
          rw [ih hitems']
      | unit _ hunit' hrest' =>
          cases hunit.symm.trans hunit'
          exact absurd rfl hrest'
  | unit hopen hunit hrest _ ih =>
      cases h' with
      | close => exact absurd rfl (hopen rfl)
      | hyphen _ hunit' =>
          cases hunit.symm.trans hunit'
          exact absurd rfl hrest
      | range _ hunit' =>
          cases hunit.symm.trans hunit'
          exact absurd rfl hrest
      | unit _ hunit' _ hitems' =>
          cases hunit.symm.trans hunit'
          rw [ih hitems']

/-- Whether a character is one of the items, case not ignored. -/
def among (items : List ClassItem) (c : Char) : Bool := items.any (·.contains .plain c)

theorem contains_eq (K : CharClass) (c : Char) :
    K.contains .plain c = (among K.items c != K.negated) := rfl

theorem among_cons : among (item :: items) c = (item.contains .plain c || among items c) := rfl

theorem contains_point {n : Nat} :
    (ClassItem.point n).contains .plain c = decide (c.toNat = n) := rfl

theorem contains_range {lo hi : Nat} : (ClassItem.range lo hi).contains .plain c =
    (decide (lo ≤ c.toNat) && decide (c.toNat ≤ hi)) := rfl

/-- A range is made of two points, the smaller one first. -/
theorem rangeOf_eq_ok_iff {range : ClassItem} : rangeOf item other = .ok range ↔
    ∃ lo hi, item = .point lo ∧ other = .point hi ∧ lo ≤ hi ∧ range = .range lo hi := by
  rw [rangeOf.eq_def]
  split
  · rename_i lo hi
    split
    · rename_i hle
      constructor
      · rintro ⟨⟩
        exact ⟨lo,hi,rfl,rfl,hle,rfl⟩
      · rintro ⟨_,_,⟨⟩,⟨⟩,-,rfl⟩
        rfl
    · rename_i hle
      refine iff_of_false nofun ?_
      rintro ⟨_,_,⟨⟩,⟨⟩,hle',-⟩
      exact hle hle'
  · rename_i hnot
    refine iff_of_false nofun ?_
    rintro ⟨lo,hi,rfl,rfl,-,-⟩
    exact hnot lo hi rfl rfl

/-- A character that stands first is one of the items, by itself or as an end of a range. -/
theorem Reads.among_head (h : Reads first (.plain c :: rest) items left)
    (hopen : first = false → c ≠ ']') : among items c = true := by
  cases h with
  | close => exact absurd rfl (hopen rfl)
  | hyphen _ hunit =>
      cases hunit
      simp [among_cons,contains_point]
  | range _ hunit _ _ hrange =>
      cases hunit
      obtain ⟨lo,hi,hlo,-,hle,rfl⟩ := rangeOf_eq_ok_iff.mp hrange
      cases hlo
      simp [among_cons,contains_range,hle]
  | unit _ hunit =>
      cases hunit
      simp [among_cons,contains_point]

/-! ## Circumflexes in front -/

theorem head?_of_tokens {s : List Char} (h : (tokens s).head? = some (.plain c)) :
    s.head? = some c := by
  rw [tokens.eq_def] at h
  split at h
  · cases h
  · cases h
  · cases h
  · cases h
    rfl

/-- Behind a circumflex a class is read as the complement of its items. -/
theorem isClass_caret_iff : IsClass ('^' :: k) N ↔ ∃ items, N = ⟨true,items⟩ ∧
    classItems ((tokens (k ++ [']'])).length + 1) true (tokens (k ++ [']'])) = .ok (items,[]) := by
  rw [IsClass,List.cons_append,tokens_cons (by decide),CharClass.read]
  generalize classItems ((tokens (k ++ [']'])).length + 1) true (tokens (k ++ [']'])) = result
  rcases result with f | ⟨items,left⟩
  · refine iff_of_false nofun ?_
    rintro ⟨_,-,⟨⟩⟩
  · constructor
    · rintro ⟨⟩
      exact ⟨items,rfl,rfl⟩
    · rintro ⟨_,rfl,⟨⟩⟩
      rfl

theorem isClass_iff (hk : k.head? ≠ some '^') : IsClass k K ↔ ∃ items, K = ⟨false,items⟩ ∧
    classItems ((tokens (k ++ [']'])).length + 1) true (tokens (k ++ [']'])) = .ok (items,[]) := by
  have hhead : ∀ rest, tokens (k ++ [']']) = .plain '^' :: rest → False := by
    intro rest hrest
    have hfirst : (k ++ [']']).head? = some '^' := head?_of_tokens (by rw [hrest]; rfl)
    cases k with
    | nil => cases hfirst
    | cons c k => exact hk hfirst
  rw [IsClass,CharClass.read.eq_2 _ hhead]
  generalize classItems ((tokens (k ++ [']'])).length + 1) true (tokens (k ++ [']'])) = result
  rcases result with f | ⟨items,left⟩
  · refine iff_of_false nofun ?_
    rintro ⟨_,-,⟨⟩⟩
  · constructor
    · rintro ⟨⟩
      exact ⟨items,rfl,rfl⟩
    · rintro ⟨_,rfl,⟨⟩⟩
      rfl

/-- One circumflex in front of a class makes its complement. -/
theorem exists_complement (h : IsClass k K) (hk : k.head? ≠ some '^') :
    ∃ N, IsClass ('^' :: k) N ∧ ∀ c, N.contains .plain c = !K.contains .plain c := by
  obtain ⟨items,rfl,hitems⟩ := (isClass_iff hk).mp h
  refine ⟨⟨true,items⟩,isClass_caret_iff.mpr ⟨items,rfl,hitems⟩,fun c => ?_⟩
  simp [contains_eq]

/-- A bracket that stands first cannot be all there is. -/
theorem Reads.ne_bracket (h : Reads true [.plain ']'] items left) : False := by
  have hnone : ∀ {items left}, Reads false [] items left → False := by
    intro items left h
    cases h with
    | hyphen _ hunit => cases hunit
    | range _ hunit => cases hunit
    | unit _ hunit => cases hunit
  cases h with
  | hyphen _ hunit => cases hunit
  | range _ hunit => cases hunit
  | unit _ hunit _ hitems =>
      cases hunit
      exact hnone hitems

/-- Items that begin with a hyphen, and items that begin with the range that the hyphen makes with
a circumflex before it. Behind the hyphen stands a point above the circumflex, so no other hyphen,
and the items have the rest in common unless a hyphen comes next. -/
theorem Reads.exists_among_eq_of_range {hi : Nat} (h : Reads true (.plain '-' :: rest) items [])
    (hrest : rest.head? ≠ some (.plain ']')) (hother : classUnit rest = .ok (.point hi,left))
    (hle : '^'.toNat ≤ hi) (hitems' : Reads false left items' []) :
    ∃ c, among (.range '^'.toNat hi :: items') c = among items c := by
  have hhyphen : among items '-' = true := h.among_head nofun
  have hnot : ∀ more, rest ≠ .plain '-' :: more := by
    rintro more rfl
    cases hother
    exact absurd hle (by decide)
  by_cases hnext : left.head? = some (.plain '-')
  · obtain ⟨more,rfl⟩ := List.head?_eq_some_iff.mp hnext
    have hmore : among items' '-' = true := hitems'.among_head (fun _ => by decide)
    exact ⟨'-',by rw [hhyphen,among_cons,hmore,Bool.or_true]⟩
  obtain ⟨more,rfl,hmore⟩ : ∃ more, items = .point 45 :: more ∧ Reads false rest more [] := by
    cases h with
    | hyphen _ hunit =>
        cases hunit
        exact absurd rfl (hnot _)
    | range _ hunit =>
        cases hunit
        exact absurd rfl (hnot _)
    | unit _ hunit _ hitems =>
        cases hunit
        exact ⟨_,rfl,hitems⟩
  cases hmore with
  | close => exact absurd rfl hrest
  | hyphen _ hunit =>
      cases hother.symm.trans hunit
      exact absurd rfl hnext
  | range _ hunit =>
      cases hother.symm.trans hunit
      exact absurd rfl hnext
  | unit _ hunit _ hitems =>
      cases hother.symm.trans hunit
      rw [hitems'.unique hitems]
      have hlow : ¬ '^'.toNat ≤ 'A'.toNat := by decide
      have hhigh : 'A'.toNat ≠ hi := fun he => hlow (he ▸ hle)
      refine ⟨'A',?_⟩
      rw [among_cons,among_cons,among_cons,contains_range,contains_point,contains_point,
        decide_eq_false hlow,decide_eq_false hhigh]
      rfl

/-- There is a character that both or neither of two rows of items have, if the second one is
read behind one more circumflex: this is an item itself, or it makes a range with what was read
behind a hyphen. -/
theorem Reads.exists_among_eq (h : Reads true ts items [])
    (h' : Reads true (.plain '^' :: ts) items' []) : ∃ c, among items' c = among items c := by
  cases h' with
  | hyphen _ hunit =>
      cases hunit
      have hhyphen : among items '-' = true := h.among_head nofun
      exact ⟨'-',by rw [hhyphen]; rfl⟩
  | range _ hunit hrest hother hrange hitems' =>
      cases hunit
      obtain ⟨lo,hi,⟨⟩,rfl,hle,rfl⟩ := rangeOf_eq_ok_iff.mp hrange
      exact h.exists_among_eq_of_range hrest hother hle hitems'
  | unit _ hunit hrest hitems =>
      cases hunit
      by_cases hclose : ts.head? = some (.plain ']')
      · cases hitems with
        | close => exact h.ne_bracket.elim
        | hyphen hopen => exact absurd hclose (hopen rfl)
        | range hopen => exact absurd hclose (hopen rfl)
        | unit hopen => exact absurd hclose (hopen rfl)
      · rw [hitems.unique (h.free hclose)]
        exact ⟨'A',by rw [among_cons,contains_point]; rfl⟩

/-- Two circumflexes in front of a class do not make the complement of what one makes. -/
theorem not_complement (hk : k.head? = some '^') (h : IsClass k K) (hN : IsClass ('^' :: k) N) :
    ∃ c, N.contains .plain c = K.contains .plain c := by
  obtain ⟨r,rfl⟩ := List.head?_eq_some_iff.mp hk
  obtain ⟨items,rfl,hitems⟩ := isClass_caret_iff.mp h
  obtain ⟨items',rfl,hitems'⟩ := isClass_caret_iff.mp hN
  rw [List.cons_append,tokens_cons (by decide)] at hitems'
  obtain ⟨c,hc⟩ := (reads_of_classItems hitems).exists_among_eq (reads_of_classItems hitems')
  exact ⟨c,by rw [contains_eq,contains_eq,hc]⟩

/-- What a class that begins with a circumflex is read from, behind the circumflex. -/
theorem IsClass.behind_caret {r : List Char} (h : IsClass ('^' :: r) K) :
    ∃ items, Reads true (tokens (r ++ [']'])) items [] ∧
      ((tokens (r ++ [']'])).head? = some (.plain ']') ↔ r.head? = some ']') := by
  obtain ⟨items,-,hitems⟩ := isClass_caret_iff.mp h
  have hreads := reads_of_classItems hitems
  refine ⟨items,hreads,?_⟩
  cases r with
  | nil => exact hreads.ne_bracket.elim
  | cons c r =>
      constructor
      · intro hhead
        have hfirst := head?_of_tokens hhead
        rwa [List.cons_append,List.head?_cons] at hfirst
      · intro hhead
        cases hhead
        rw [List.cons_append,tokens_cons (by decide)]
        rfl

/-- One more circumflex leaves a class a class, unless a range goes wrong. -/
theorem isClass_or_error {r : List Char} (h : IsClass ('^' :: r) K) (hr : r.head? ≠ some ']') :
    (∃ N, IsClass ('^' :: '^' :: r) N) ∨
      ∃ f, CharClass.read (tokens ('^' :: '^' :: r ++ [']'])) = .error f := by
  obtain ⟨items,hreads,hhead⟩ := h.behind_caret
  have hcloses : Closes (tokens (r ++ [']'])) [] := hreads.closes fun _ => mt hhead.mp hr
  cases hread : CharClass.read (tokens ('^' :: '^' :: r ++ [']'])) with
  | error f => exact .inr ⟨f,rfl⟩
  | ok N =>
      obtain ⟨N,left⟩ := N
      refine .inl ⟨N,?_⟩
      rw [IsClass,hread]
      rw [List.cons_append,tokens_cons (by decide),CharClass.read] at hread
      obtain ⟨⟨items',left'⟩,hitems,hok⟩ := exists_of_bind hread
      cases hok
      have hreads' := reads_of_classItems hitems
      rw [List.cons_append,tokens_cons (by decide)] at hreads'
      cases hreads'.closes (by simp) with
      | unit _ hunit hrest =>
          cases hunit
          rw [hrest.unique hcloses]

/-- A bracket behind two circumflexes closes the class, and what follows is left over. -/
theorem read_bracket (s : List Char) :
    CharClass.read (tokens ('^' :: '^' :: ']' :: s)) = .ok (⟨true,[.point 94]⟩,tokens s) := by
  rw [tokens_cons (by decide),tokens_cons (by decide),tokens_cons (by decide)]
  rfl

theorem not_isClass_of_bracket {r : List Char} : ¬ IsClass ('^' :: '^' :: ']' :: r) N := by
  intro h
  have hleft : tokens (r ++ [']']) ≠ [] := by
    rw [tokens.eq_def]
    split <;> simp_all
  refine hleft ?_
  rw [IsClass,List.cons_append,List.cons_append,List.cons_append,read_bracket] at h
  exact congrArg Prod.snd (Except.ok.inj h)

end

end Vetting.Pattern
