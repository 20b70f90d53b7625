import Vetting.Proofs.Number.Numeral

/-!
# Numbers in texts and at the front of them

A text is a number, is read as one, and starts with one: all three go by one grammar. Whatever
is a number has a reading, and the number that a text starts with is the longest one. Only
separators set the readings apart: they are blanks for the grammar, and no blanks for the reader
that a leading number is left to.
-/
namespace Vetting
open Number Text

namespace Value

/-! ## The longest number -/

/-- The longest text at the front of another one that is a number and does not end in a blank. -/
structure LongestNumber (s p : List Char) : Prop where
  front : p <+: s
  number : (Value.text (String.ofList p)).isNumeric = true
  tight : trimEnd p = p
  longest : ∀ q, q <+: s → (Value.text (String.ofList q)).isNumeric = true → trimEnd q = q →
    q.length ≤ p.length

section
variable {s p q rest before u after : List Char} {n m : Numeral}

theorem LongestNumber.unique (h : LongestNumber s p) (h' : LongestNumber s q) : p = q := by
  have hpq := h'.longest p h.front h.number h.tight
  have hqp := h.longest q h'.front h'.number h'.tight
  exact (List.prefix_of_prefix_length_le h.front h'.front hpq).eq_of_length (by omega)

theorem isNumeric_text_iff : (Value.text (String.ofList s)).isNumeric = true ↔
    ∃ n, Numeral.ofText? s = some n := by
  rw [isNumeric,String.toList_ofList]
  exact Option.isSome_iff_exists

theorem trimEnd_append_of_blank (hu : Numeral.Written u n) (before : List Char)
    (ha : ∀ c ∈ after, isBlank c = true) : trimEnd (before ++ (u ++ after)) = before ++ u := by
  have hlast : ∀ c ∈ (before ++ u).reverse.head?, isBlank c = false := by
    rw [List.reverse_append]
    intro c hc
    rw [List.head?_append_of_ne_nil _ (by simpa using hu.ne_nil)] at hc
    exact hu.isBlank_eq c (List.mem_reverse.mp (List.mem_of_mem_head? hc))
  have hrun := Path.run_of_all (s := after.reverse) (fun c hc => ha c (List.mem_reverse.mp hc))
    hlast
  rw [← List.append_assoc,trimEnd,List.reverse_append,hrun.2,List.reverse_reverse]

theorem isNumeric_append (hb : ∀ c ∈ before, isBlank c = true) (hu : Numeral.Written u n) :
    (Value.text (String.ofList (before ++ u))).isNumeric = true := by
  refine isNumeric_text_iff.mpr ⟨n,Numeral.ofText?_eq_some_iff.mpr ⟨before,u,[],?_,hb,hu,nofun⟩⟩
  rw [List.append_nil]

/-- A number that does not end in a blank consists of blanks and a numeral. -/
theorem exists_written (h : (Value.text (String.ofList p)).isNumeric = true)
    (ht : trimEnd p = p) : ∃ before u n, p = before ++ u ∧
      (∀ c ∈ before, isBlank c = true) ∧ Numeral.Written u n := by
  obtain ⟨n,hn⟩ := isNumeric_text_iff.mp h
  obtain ⟨before,u,after,rfl,hb,hu,ha⟩ := Numeral.ofText?_eq_some_iff.mp hn
  rw [trimEnd_append_of_blank hu before ha] at ht
  exact ⟨before,u,n,ht.symm,hb,hu⟩

/-- A scan finds the longest number. -/
theorem longestNumber_of_scan (h : Numeral.scan (trimStart s) = some (n,rest)) :
    ∃ before u, s = before ++ (u ++ rest) ∧ (∀ c ∈ before, isBlank c = true) ∧
      Numeral.Written u n ∧ LongestNumber s (before ++ u) := by
  obtain ⟨u,hu,hs⟩ := Numeral.written_of_scan h
  have hb : ∀ c ∈ s.takeWhile isBlank, isBlank c = true := List.all_eq_true.mp List.all_takeWhile
  have hparts : s = s.takeWhile isBlank ++ (u ++ rest) := by
    rw [← hs,trimStart,List.takeWhile_append_dropWhile]
  refine ⟨s.takeWhile isBlank,u,hparts,hb,hu,?_,isNumeric_append hb hu,?_,?_⟩
  · exact ⟨rest,by rw [List.append_assoc,← hparts]⟩
  · have htight : trimEnd (s.takeWhile isBlank ++ (u ++ [])) = s.takeWhile isBlank ++ u :=
      trimEnd_append_of_blank hu _ (List.forall_mem_nil _)
    rwa [List.append_nil] at htight
  · intro q hq hnumber htight
    obtain ⟨before,v,m,rfl,hbefore,hv⟩ := exists_written hnumber htight
    obtain ⟨t,ht⟩ := hq
    rw [List.append_assoc] at ht
    obtain ⟨m',rest',hscan,hsuffix⟩ := hv.scan_longest t
    rw [← hv.trimStart_eq hbefore,ht,h] at hscan
    cases hscan
    have hlen := congrArg List.length (ht.trans hparts)
    simp only [List.length_append] at hlen ⊢
    have := hsuffix.length_le
    omega

/-- The longest number is what a scan finds. -/
theorem LongestNumber.scan_eq (h : LongestNumber s p) : ∃ before u n rest,
    p = before ++ u ∧ s = before ++ (u ++ rest) ∧ (∀ c ∈ before, isBlank c = true) ∧
      Numeral.Written u n ∧ Numeral.scan (trimStart s) = some (n,rest) := by
  obtain ⟨before,u,n,rfl,hb,hu⟩ := exists_written h.number h.tight
  obtain ⟨t,rfl⟩ := h.front
  obtain ⟨m,rest,hscan,-⟩ := hu.scan_longest t
  rw [← hu.trimStart_eq hb,← List.append_assoc] at hscan
  obtain ⟨before',u',hparts,hb',hu',h'⟩ := longestNumber_of_scan hscan
  exact ⟨before',u',m,rest,h.unique h',hparts,hb',hu',hscan⟩

theorem exists_longestNumber_iff :
    (∃ p, LongestNumber s p) ↔ Numeral.scan (trimStart s) ≠ none := by
  constructor
  · rintro ⟨p,h⟩
    obtain ⟨_,_,_,_,-,-,-,-,hscan⟩ := h.scan_eq
    rw [hscan]
    exact Option.some_ne_none _
  · intro h
    obtain ⟨⟨n,rest⟩,hscan⟩ := Option.ne_none_iff_exists'.mp h
    obtain ⟨before,u,-,-,-,hlongest⟩ := longestNumber_of_scan hscan
    exact ⟨before ++ u,hlongest⟩

end

/-! ## Readings -/

/-- The reading of a number that is tried first as an integer. -/
def readNumber? (s : List Char) : Option Number :=
  match readInt? s with
  | some k => some (.int k)
  | none => (readBinary64? s).map .binary

/-- What has no reading as a binary number is a fault. -/
def orUnread : Option Binary64 → Except Fault Binary64
  | some x => .ok x
  | none => .error .badValue

/-- A blank for the grammar that is none for the reader of binary numbers. -/
def HasSeparator (p : List Char) : Prop := ∃ c ∈ p, isBlank c = true ∧ isNumberBlank c = false

/-- There is a separator before the number that a text starts with. -/
def Separated (s : List Char) : Prop := ∃ p, LongestNumber s p ∧ HasSeparator p

/-- The binary number closest to a number. -/
def Closest : Number → Binary64 → Prop
  | .int k, x => Binary64.Nearest k x
  | .binary y, x => x = y
  | .decimal d, x => d.toBinary64? = some x

section
variable {s p u before after : List Char} {n : Numeral}

/-- Without the blanks around it a numeral has a reading. -/
theorem readNumber?_written (h : Numeral.Written u n) :
    readNumber? u = some (numeralNumber n) := by
  have hbinary : readBinary64? ([] ++ u) =
      if ([] : List Char).all isNumberBlank then some n.toBinary64 else none :=
    h.readBinary64?_eq nofun
  rw [List.nil_append,List.all_nil,if_pos rfl] at hbinary
  rw [readNumber?,h.readInt?_eq,hbinary,numeralNumber]
  cases n.toInt? <;> rfl

theorem trim_append (hb : ∀ c ∈ before, isBlank c = true) (hu : Numeral.Written u n)
    (ha : ∀ c ∈ after, isBlank c = true) : trim (before ++ (u ++ after)) = u := by
  rw [trim,hu.trimStart_eq hb]
  exact trimEnd_append_of_blank hu [] ha

theorem hasSeparator_append_iff (hb : ∀ c ∈ before, isBlank c = true)
    (hu : Numeral.Written u n) :
    HasSeparator (before ++ u) ↔ ¬ before.all isNumberBlank = true := by
  rw [List.all_eq_true]
  push Not
  constructor
  · rintro ⟨c,hc,hblank,hn⟩
    rcases List.mem_append.mp hc with hc | hc
    · exact ⟨c,hc,by rw [hn]; exact Bool.false_ne_true⟩
    · rw [hu.isBlank_eq c hc] at hblank
      cases hblank
  · rintro ⟨c,hc,hn⟩
    exact ⟨c,List.mem_append_left u hc,hb c hc,Bool.eq_false_iff.mpr hn⟩

/-- The number at the front of a text is the longest one, as it is read if it is read. -/
theorem LongestNumber.leadingFloat_eq (h : LongestNumber s p) : ∃ n,
    Numeral.ofText? p = some n ∧ leadingFloat s = orUnread (readBinary64? p) ∧
      (HasSeparator p → readBinary64? p = none) ∧
        (¬ HasSeparator p → readBinary64? p = some n.toBinary64) := by
  obtain ⟨before,u,n,rest,rfl,hs,hb,hu,hscan⟩ := h.scan_eq
  have htake : s.takeWhile isBlank = before := by
    rw [hs]
    exact (Path.run_of_all hb (hu.isBlank_head rest)).1
  have htext : Numeral.ofText? (before ++ u) = some n :=
    Numeral.ofText?_eq_some_iff.mpr ⟨before,u,[],by rw [List.append_nil],hb,hu,nofun⟩
  refine ⟨n,htext,?_,?_,?_⟩
  · rw [leadingFloat,hscan,htake,hu.readBinary64?_eq hb]
    dsimp only
    split <;> rfl
  · rw [hasSeparator_append_iff hb hu,hu.readBinary64?_eq hb]
    exact fun hall => if_neg hall
  · rw [hasSeparator_append_iff hb hu,hu.readBinary64?_eq hb,not_not]
    exact fun hall => if_pos hall

theorem toNumber_text (s : String) : (Value.text s).toNumber =
    .ok (if (Value.text s).isNumeric then readNumber? (trim s.toList) else none) := by
  rw [toNumber,isNumeric]
  cases hn : Numeral.ofText? s.toList with
  | none => rfl
  | some n =>
      obtain ⟨before,u,after,hs,hb,hu,ha⟩ := Numeral.ofText?_eq_some_iff.mp hn
      rw [hs,trim_append hb hu ha,readNumber?_written hu]
      rfl

theorem exists_readNumber? {s : String} (h : (Value.text s).isNumeric = true) :
    ∃ a, readNumber? (trim s.toList) = some a := by
  obtain ⟨n,hn⟩ := Option.isSome_iff_exists.mp h
  obtain ⟨before,u,after,hs,hb,hu,ha⟩ := Numeral.ofText?_eq_some_iff.mp hn
  exact ⟨numeralNumber n,by rw [hs,trim_append hb hu ha,readNumber?_written hu]⟩

/-- A number is the longest one at the front of itself. -/
theorem longestNumber_of_isNumeric {s : String} (h : (Value.text s).isNumeric = true) :
    LongestNumber s.toList (trimEnd s.toList) := by
  obtain ⟨n,hn⟩ := Option.isSome_iff_exists.mp h
  obtain ⟨before,u,after,hs,hb,hu,ha⟩ := Numeral.ofText?_eq_some_iff.mp hn
  have hscan : Numeral.scan (trimStart s.toList) = some (n,after) := by
    rw [hs,hu.trimStart_eq hb]
    exact hu.scan_eq fun c hc => ha c (List.mem_of_mem_head? hc)
  obtain ⟨before',u',hparts,-,hu',hlongest⟩ := longestNumber_of_scan hscan
  have htrim : trimEnd s.toList = before' ++ u' := by
    rw [hparts]
    exact trimEnd_append_of_blank hu' before' ha
  rwa [htrim]

theorem closest_numeralNumber (n : Numeral) : Closest (numeralNumber n) n.toBinary64 := by
  have hnearest := n.toBinary64_nearest
  rw [numeralNumber]
  cases hk : n.toInt? with
  | none => rfl
  | some k =>
      rw [Numeral.value_of_toInt? hk] at hnearest
      exact hnearest

theorem closest_of_toNumber {s : String} {a : Number} {x : Binary64}
    (ha : (Value.text s).toNumber = .ok (some a)) (hx : (Value.text s).toFloat = .ok x) :
    Closest a x := by
  obtain ⟨n,hn,rfl⟩ := Option.map_eq_some_iff.mp (Except.ok.inj ha)
  have hscan : ∃ rest, Numeral.scan (trimStart s.toList) = some (n,rest) := by
    rw [Numeral.ofText?] at hn
    split at hn
    · rename_i m rest hm
      split at hn
      · cases hn
        exact ⟨rest,hm⟩
      · cases hn
    · cases hn
  obtain ⟨rest,hscan⟩ := hscan
  have hread : (Value.text s).toFloat = leadingFloat s.toList := rfl
  rw [hread,leadingFloat,hscan] at hx
  dsimp only at hx
  split at hx
  · cases hx
    exact closest_numeralNumber n
  · cases hx

/-- Texts have a reading as a number exactly if they are one. The number that a text starts
with is the longest one, and of a text that is a number it is all but the blanks at its end, so
that both readings are of the same number. Separators alone can prevent the second one. -/
theorem text_numbers_agree (s : String) :
    (Value.text s).toNumber =
        .ok (if (Value.text s).isNumeric then readNumber? (trim s.toList) else none) ∧
      ((Value.text s).isNumeric = true → ∃ a, readNumber? (trim s.toList) = some a) ∧
      ((∃ x, (Value.text s).toFloat = .ok x) ↔ ¬ Separated s.toList) ∧
      (∀ p, LongestNumber s.toList p → ∃ n, Numeral.ofText? p = some n ∧
        (Value.text s).toFloat = orUnread (readBinary64? p) ∧
          ∀ x, readBinary64? p = some x → Binary64.Nearest n.value x) ∧
      ((¬ ∃ p, LongestNumber s.toList p) →
        (Value.text s).toFloat = .ok (Binary64.zero false)) ∧
      ((Value.text s).isNumeric = true → LongestNumber s.toList (trimEnd s.toList) ∧
        ∀ a x, (Value.text s).toNumber = .ok (some a) → (Value.text s).toFloat = .ok x →
          Closest a x) := by
  have hfloat : (Value.text s).toFloat = leadingFloat s.toList := rfl
  rw [hfloat]
  refine ⟨toNumber_text s,exists_readNumber?,?_,?_,?_,?_⟩
  · by_cases hp : ∃ p, LongestNumber s.toList p
    · obtain ⟨p,hp⟩ := hp
      obtain ⟨n,-,hread,hnone,hsome⟩ := hp.leadingFloat_eq
      have hseparated : Separated s.toList ↔ HasSeparator p := by
        constructor
        · rintro ⟨q,hq,h⟩
          rwa [hp.unique hq]
        · exact fun h => ⟨p,hp,h⟩
      rw [hseparated,hread]
      by_cases h : HasSeparator p
      · simp [hnone h,orUnread,h]
      · simp [hsome h,orUnread,h]
    · have hscan := not_not.mp (mt exists_longestNumber_iff.mpr hp)
      refine iff_of_true ⟨Binary64.zero false,by rw [leadingFloat,hscan]⟩ ?_
      rintro ⟨p,h,-⟩
      exact hp ⟨p,h⟩
  · intro p hp
    obtain ⟨n,hn,hread,hnone,hsome⟩ := hp.leadingFloat_eq
    refine ⟨n,hn,hread,fun x hx => ?_⟩
    by_cases h : HasSeparator p
    · rw [hnone h] at hx
      cases hx
    · rw [hsome h] at hx
      cases hx
      exact n.toBinary64_nearest
  · intro hp
    rw [leadingFloat,not_not.mp (mt exists_longestNumber_iff.mpr hp)]
  · intro h
    exact ⟨longestNumber_of_isNumeric h,fun a x ha hx => closest_of_toNumber ha hx⟩

/-- A separator before a digit: a number, and no number at the front. -/
theorem separated_unread : (Value.text "\x1c5").isNumeric = true ∧
    (Value.text "\x1c5").toNumber = .ok (some (.int 5)) ∧
      (Value.text "\x1c5").toFloat = .error .badValue := by
  decide +kernel

end

end Value

end Vetting
