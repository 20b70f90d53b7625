import Vetting.Proofs.CheckDigit.Taxpayer
import Vetting.Proofs.Value.Leading
import Vetting.Rules.Number

/-!
# Decimal texts

A decimal text is made of digits, with a point before or among them or none. It is a numeral, so
every reader of numbers takes all of it. Separators become points by replacing one after the
other; for the comma and the point this changes each comma and nothing else.
-/
namespace Vetting.Rules
open Text Number

/-- Digits, or one of some separators with digits behind it and perhaps before it. -/
inductive DecimalForm (separators : List Char) : List Char → Prop
  | whole {digits : List Char} (hne : digits ≠ []) (hd : ∀ c ∈ digits, isAsciiDigit c = true) :
      DecimalForm separators digits
  | parted {digits decimals : List Char} {p : Char} (hp : p ∈ separators)
      (hd : ∀ c ∈ digits, isAsciiDigit c = true) (hne : decimals ≠ [])
      (hf : ∀ c ∈ decimals, isAsciiDigit c = true) :
      DecimalForm separators (digits ++ p :: decimals)

section
variable {s : List Char} {c : Char}

theorem isDecimalText_iff : isDecimalText s = true ↔ DecimalForm ['.'] s := by
  constructor
  · intro h
    have hd : ∀ c ∈ s.takeWhile isAsciiDigit, isAsciiDigit c = true :=
      List.all_eq_true.mp List.all_takeWhile
    have hparts : s.takeWhile isAsciiDigit ++ s.dropWhile isAsciiDigit = s :=
      List.takeWhile_append_dropWhile
    rw [isDecimalText] at h
    split at h
    · rename_i hrest
      rw [hrest,List.append_nil] at hparts
      rw [hparts] at hd
      exact .whole (by simpa using h) hd
    · rename_i decimals hrest
      rw [hrest] at hparts
      rw [Bool.and_eq_true,List.all_eq_true] at h
      rw [← hparts]
      exact .parted (List.mem_singleton_self '.') hd (by simpa using h.1) h.2
    · cases h
  · rintro (⟨hne,hd⟩ | @⟨digits,decimals,p,hp,hd,hne,hf⟩)
    · have hrest : s.dropWhile isAsciiDigit = [] := List.dropWhile_eq_nil_iff.mpr hd
      simp [isDecimalText,hrest,hne]
    · cases List.mem_singleton.mp hp
      have hrest : (digits ++ '.' :: decimals).dropWhile isAsciiDigit = '.' :: decimals :=
        (Path.run_of_all hd (by rintro _ ⟨⟩; decide)).2
      simp [isDecimalText,hrest,hne,List.all_eq_true.mpr hf]

/-! ## Readings -/

theorem exists_written (h : DecimalForm ['.'] s) : ∃ n, Numeral.Written s n := by
  have hdecimal {digits : List Char} (hd : ∀ c ∈ digits, isAsciiDigit c = true) :
      ∀ c ∈ digits, isDecimal c = true := fun c hc =>
    CheckDigit.isDecimal_of_isAsciiDigit (hd c hc)
  cases h with
  | whole hne hd =>
      have hwritten := Numeral.Written.mk .none (.whole hne (hdecimal hd)) .none
      rw [List.append_nil,List.nil_append] at hwritten
      exact ⟨_,hwritten⟩
  | @parted digits decimals p hp hd hne hf =>
      cases List.mem_singleton.mp hp
      by_cases hwhole : digits = []
      · subst hwhole
        have hwritten := Numeral.Written.mk .none (.fraction hne (hdecimal hf)) .none
        rw [List.append_nil] at hwritten
        exact ⟨_,hwritten⟩
      · have hwritten :=
          Numeral.Written.mk .none (.point hwhole (hdecimal hd) (hdecimal hf)) .none
        rw [List.append_nil,List.nil_append] at hwritten
        exact ⟨_,hwritten⟩

/-- A text that is read as one numeral from its front to its end. -/
structure ReadWhole (s : String) (n : Numeral) : Prop where
  written : Numeral.Written s.toList n
  numeric : (Value.text s).isNumeric = true
  number : (Value.text s).toNumber = .ok (some (Value.numeralNumber n))
  longest : Value.LongestNumber s.toList s.toList
  float : (Value.text s).toFloat = .ok n.toBinary64
  nearest : Binary64.Nearest n.value n.toBinary64

theorem readWhole_of_written {s : String} {n : Numeral} (h : Numeral.Written s.toList n) :
    ReadWhole s n := by
  have hnumeral : Numeral.ofText? s.toList = some n := by
    refine Numeral.ofText?_eq_some_iff.mpr ⟨[],s.toList,[],?_,nofun,h,nofun⟩
    rw [List.nil_append,List.append_nil]
  have hnumeric : (Value.text s).isNumeric = true := by
    rw [Value.isNumeric,hnumeral]
    rfl
  have htrim : trimEnd s.toList = s.toList := by
    have hend := Value.trimEnd_append_of_blank h [] (List.forall_mem_nil _)
    rwa [List.nil_append,List.append_nil] at hend
  have hlongest := Value.longestNumber_of_isNumeric hnumeric
  rw [htrim] at hlongest
  obtain ⟨m,hm,hfloat,-,hread⟩ := hlongest.leadingFloat_eq
  cases hnumeral.symm.trans hm
  have hseparator : ¬ Value.HasSeparator s.toList := by
    rintro ⟨c,hc,hblank,-⟩
    rw [h.isBlank_eq c hc] at hblank
    cases hblank
  refine ⟨h,hnumeric,?_,hlongest,?_,n.toBinary64_nearest⟩
  · rw [Value.toNumber,hnumeral]
    rfl
  · rw [hread hseparator] at hfloat
    exact hfloat

/-! ## Separators -/

/-- One character is replaced by another one wherever it is. -/
theorem replaceAll_singleton (a b : Char) (s : List Char) :
    replaceAll [a] [b] s = s.map fun c => if c = a then b else c := by
  have hpart : ∀ fuel s, s.length ≤ fuel →
      replacePart [a] [b] fuel s = s.map fun c => if c = a then b else c := by
    intro fuel
    induction fuel with
    | zero =>
        intro s hs
        cases List.eq_nil_of_length_eq_zero (Nat.le_zero.mp hs)
        rfl
    | succ fuel ih =>
        intro s hs
        cases s with
        | nil => rfl
        | cons c rest =>
            have hrest := ih rest (Nat.le_of_succ_le_succ hs)
            by_cases hc : c = a
            · simp [replacePart,hc,hrest]
            · simp [replacePart,hc,Ne.symm hc,hrest]
  exact hpart s.length s le_rfl

/-- A point in the place of a comma. -/
def pointFor (c : Char) : Char := if c = ',' then '.' else c

theorem pointed_default (s : List Char) :
    pointed [.text ",",.text "."] s = .ok (s.map pointFor) := by
  have hcomma : replaceAll ",".toList ['.'] s = s.map pointFor := replaceAll_singleton ',' '.' s
  have hpoint (t : List Char) : replaceAll ".".toList ['.'] t = t := by
    refine (replaceAll_singleton '.' '.' t).trans ?_
    have hsame : (fun c : Char => if c = '.' then '.' else c) = id := by
      funext c
      split
      · exact Eq.symm ‹_›
      · rfl
    rw [hsame,List.map_id]
  simp only [pointed,hcomma,hpoint]

theorem isAsciiDigit_pointFor (c : Char) : isAsciiDigit (pointFor c) = isAsciiDigit c := by
  by_cases hc : c = ','
  · subst hc
    decide
  · rw [pointFor,if_neg hc]

theorem pointFor_eq_point_iff : pointFor c = '.' ↔ c ∈ [',','.'] := by
  by_cases hc : c = ','
  · simp [pointFor,hc]
  · simp [pointFor,hc]

theorem digits_map_pointFor_iff :
    (∀ c ∈ s.map pointFor, isAsciiDigit c = true) ↔ ∀ c ∈ s, isAsciiDigit c = true := by
  simp only [List.forall_mem_map,isAsciiDigit_pointFor]

/-- Of what has become a decimal text, the separator was a comma or a point. -/
theorem decimalForm_map_pointFor_iff :
    DecimalForm ['.'] (s.map pointFor) ↔ DecimalForm [',','.'] s := by
  constructor
  · intro h
    generalize ht : s.map pointFor = t at h
    cases h with
    | whole hne hd =>
        subst ht
        exact .whole (by simpa using hne) (digits_map_pointFor_iff.mp hd)
    | parted hp hd hne hf =>
        cases List.mem_singleton.mp hp
        obtain ⟨digits,rest,rfl,rfl,hrest⟩ := List.map_eq_append_iff.mp ht
        obtain ⟨p,decimals,rfl,hpoint,rfl⟩ := List.map_eq_cons_iff.mp hrest
        exact .parted (pointFor_eq_point_iff.mp hpoint) (digits_map_pointFor_iff.mp hd)
          (by simpa using hne) (digits_map_pointFor_iff.mp hf)
  · rintro (⟨hne,hd⟩ | ⟨hp,hd,hne,hf⟩)
    · exact .whole (by simpa using hne) (digits_map_pointFor_iff.mpr hd)
    · rw [List.map_append,List.map_cons,pointFor_eq_point_iff.mpr hp]
      exact .parted (List.mem_singleton_self '.') (digits_map_pointFor_iff.mpr hd)
        (by simpa using hne) (digits_map_pointFor_iff.mpr hf)

/-- There is no comma in a decimal text with a point. -/
theorem map_pointFor_of_decimalForm (h : DecimalForm ['.'] s) : s.map pointFor = s := by
  have hdigit (c : Char) (hc : isAsciiDigit c = true) : pointFor c = c := by
    refine if_neg ?_
    rintro rfl
    exact absurd hc (by decide)
  have hdigits {digits : List Char} (hd : ∀ c ∈ digits, isAsciiDigit c = true) :
      digits.map pointFor = digits :=
    (List.map_congr_left fun c hc => hdigit c (hd c hc)).trans (List.map_id digits)
  cases h with
  | whole hne hd => exact hdigits hd
  | parted hp hd hne hf =>
      cases List.mem_singleton.mp hp
      rw [List.map_append,List.map_cons,hdigits hd,hdigits hf]
      rfl

end

end Vetting.Rules
