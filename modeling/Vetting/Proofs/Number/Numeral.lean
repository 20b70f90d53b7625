import Mathlib.Data.List.DropRight
import Vetting.Proofs.Number.Closest
import Vetting.Proofs.Value.Integers

/-!
# The grammar of numerals

A numeral is written with a sign or none, with digits of which some can stand behind a point,
and with a power of ten or none. The scan of a text takes a numeral in this sense, and the
longest one that the text starts with. Behind a power that lacks its digits, or a sign that
lacks a number, the scan therefore goes back to where the last numeral ended.
-/
namespace Vetting.Number
open Text

/-- Digits with a point before, among or behind them, or none. -/
inductive Significand : List Char → List Nat → Option (List Nat) → Prop
  | whole {digits : List Char} (hne : digits ≠ []) (hd : ∀ c ∈ digits, isDecimal c = true) :
      Significand digits (digitValues digits) none
  | point {digits decimals : List Char} (hne : digits ≠ [])
      (hd : ∀ c ∈ digits, isDecimal c = true) (hf : ∀ c ∈ decimals, isDecimal c = true) :
      Significand (digits ++ '.' :: decimals) (digitValues digits) (some (digitValues decimals))
  | fraction {decimals : List Char} (hne : decimals ≠ [])
      (hf : ∀ c ∈ decimals, isDecimal c = true) :
      Significand ('.' :: decimals) [] (some (digitValues decimals))

/-- A mark with an exponent of at least one digit, or nothing. -/
inductive Power : List Char → Option (Bool × List Nat) → Prop
  | none : Power [] none
  | mark {c : Char} {sign digits : List Char} {negative : Bool} (hc : c = 'e' ∨ c = 'E')
      (hs : Sign sign negative) (hne : digits ≠ []) (hd : ∀ c ∈ digits, isDecimal c = true) :
      Power (c :: (sign ++ digits)) (some (negative,digitValues digits))

/-- The ways to write a numeral. -/
inductive Numeral.Written : List Char → Numeral → Prop
  | mk {sign body power : List Char} {negative : Bool} {whole : List Nat}
      {fraction : Option (List Nat)} {exponent : Option (Bool × List Nat)}
      (hs : Sign sign negative) (hb : Significand body whole fraction)
      (hp : Power power exponent) :
      Written (sign ++ (body ++ power)) ⟨negative,whole,fraction,exponent⟩

section
variable {s t u body power digits rest : List Char} {negative : Bool} {whole : List Nat}
  {fraction : Option (List Nat)} {exponent : Option (Bool × List Nat)} {n : Numeral}

/-! ## What a scan takes is a numeral -/

theorem sign_takeSign (s : List Char) :
    ∃ sign, Sign sign (takeSign s).1 ∧ s = sign ++ (takeSign s).2 := by
  unfold takeSign
  split
  · exact ⟨['-'],.minus,rfl⟩
  · exact ⟨['+'],.plus,rfl⟩
  · exact ⟨[],.none,rfl⟩

/-- The digits that are taken, none if none are. -/
theorem takeDigits_eq (s : List Char) : ∃ digits, (∀ c ∈ digits, isDecimal c = true) ∧
    (takeDigits s).1 = digitValues digits ∧ s = digits ++ (takeDigits s).2 ∧
      ((takeDigits s).1 = [] ↔ digits = []) := by
  have hd : ∀ c ∈ s.takeWhile isDecimal, isDecimal c = true :=
    List.all_eq_true.mp List.all_takeWhile
  refine ⟨s.takeWhile isDecimal,hd,rfl,List.takeWhile_append_dropWhile.symm,?_⟩
  rw [← List.length_eq_zero_iff,← List.length_eq_zero_iff,takeDigits,length_digitValues hd]

theorem takeSignificand_whole {ds : List Nat} (h : takeDigits s = (ds,rest)) (hds : ds ≠ [])
    (hp : rest.head? ≠ some '.') : takeSignificand s = some ((ds,none),rest) := by
  obtain ⟨d,ds,rfl⟩ := List.exists_cons_of_ne_nil hds
  rw [takeSignificand,h]
  cases rest with
  | nil => rfl
  | cons c rest =>
      have hc : c ≠ '.' := by simpa using hp
      simp [hc]

theorem takeSignificand_point {ds : List Nat} (h : takeDigits s = (ds,'.' :: rest))
    (hds : ds ≠ []) :
    takeSignificand s = some ((ds,some (takeDigits rest).1),(takeDigits rest).2) := by
  obtain ⟨d,ds,rfl⟩ := List.exists_cons_of_ne_nil hds
  simp [takeSignificand,h]

theorem takeSignificand_fraction (h : takeDigits s = ([],'.' :: rest)) : takeSignificand s =
    if (takeDigits rest).1 = [] then none
    else some (([],some (takeDigits rest).1),(takeDigits rest).2) := by
  generalize hr : takeDigits rest = r
  obtain ⟨ds,left⟩ := r
  cases ds <;> simp [takeSignificand,h,hr]

theorem takeSignificand_none (h : takeDigits s = ([],rest)) (hp : rest.head? ≠ some '.') :
    takeSignificand s = none := by
  rw [takeSignificand,h]
  cases rest with
  | nil => rfl
  | cons c rest =>
      have hc : c ≠ '.' := by simpa using hp
      simp [hc]

theorem significand_of_takeSignificand
    (h : takeSignificand s = some ((whole,fraction),rest)) :
    ∃ body, Significand body whole fraction ∧ s = body ++ rest := by
  obtain ⟨digits,hd,hvalues,hs,hempty⟩ := takeDigits_eq s
  generalize hr : takeDigits s = r at *
  obtain ⟨ds,left⟩ := r
  dsimp only at hvalues hs hempty
  by_cases hpoint : left.head? = some '.'
  · obtain ⟨after,rfl⟩ := List.head?_eq_some_iff.mp hpoint
    obtain ⟨decimals,hf,hfvalues,hafter,hfempty⟩ := takeDigits_eq after
    by_cases hds : ds = []
    · subst hds
      obtain rfl := hempty.mp rfl
      rw [takeSignificand_fraction hr] at h
      split at h
      · cases h
      · rename_i hfs
        cases h
        rw [hfvalues]
        exact ⟨'.' :: decimals,.fraction (mt hfempty.mpr hfs) hf,by rw [hs,List.nil_append,
          List.cons_append,← hafter]⟩
    · rw [takeSignificand_point hr hds] at h
      cases h
      rw [hvalues,hfvalues]
      refine ⟨digits ++ '.' :: decimals,.point (mt hempty.mpr hds) hd hf,?_⟩
      rw [hs,List.append_assoc,List.cons_append,← hafter]
  · by_cases hds : ds = []
    · subst hds
      rw [takeSignificand_none hr hpoint] at h
      cases h
    · rw [takeSignificand_whole hr hds hpoint] at h
      cases h
      rw [hvalues]
      exact ⟨digits,.whole (mt hempty.mpr hds) hd,hs⟩

theorem takeExponent_mark {c : Char} (hc : c = 'e' ∨ c = 'E') (s : List Char) :
    takeExponent (c :: s) =
      if (takeDigits (takeSign s).2).1 = [] then (none,c :: s)
      else (some ((takeSign s).1,(takeDigits (takeSign s).2).1),
        (takeDigits (takeSign s).2).2) := by
  generalize hr : takeDigits (takeSign s).2 = r
  obtain ⟨ds,left⟩ := r
  cases ds <;> simp [takeExponent,hc,hr]

theorem power_takeExponent (s : List Char) :
    ∃ power, Power power (takeExponent s).1 ∧ s = power ++ (takeExponent s).2 := by
  cases s with
  | nil => exact ⟨[],.none,rfl⟩
  | cons c s =>
      by_cases hc : c = 'e' ∨ c = 'E'
      · rw [takeExponent_mark hc]
        obtain ⟨sign,hsign,hs⟩ := sign_takeSign s
        obtain ⟨digits,hd,hvalues,hleft,hempty⟩ := takeDigits_eq (takeSign s).2
        split
        · exact ⟨[],.none,rfl⟩
        · rename_i hds
          rw [hvalues]
          refine ⟨c :: (sign ++ digits),.mark hc hsign (mt hempty.mpr hds) hd,?_⟩
          rw [List.cons_append,List.append_assoc,← hleft,← hs]
      · rw [takeExponent,if_neg hc]
        exact ⟨[],.none,rfl⟩

/-- What is scanned is written, and stands at the front of the text. -/
theorem Numeral.written_of_scan (h : Numeral.scan s = some (n,rest)) :
    ∃ u, Numeral.Written u n ∧ s = u ++ rest := by
  obtain ⟨sign,hsign,hs⟩ := sign_takeSign s
  unfold Numeral.scan at h
  dsimp only at h
  split at h
  · cases h
  · rename_i whole fraction left hleft
    cases h
    obtain ⟨body,hbody,hbs⟩ := significand_of_takeSignificand hleft
    obtain ⟨power,hpower,hps⟩ := power_takeExponent left
    refine ⟨sign ++ (body ++ power),.mk hsign hbody hpower,?_⟩
    rw [List.append_assoc,List.append_assoc,← hps,← hbs,← hs]

/-! ## A scan goes on as far as it can -/

theorem takeDigits_run (hd : ∀ c ∈ digits, isDecimal c = true) (t : List Char) :
    takeDigits (digits ++ t) = (digitValues digits ++ (takeDigits t).1,(takeDigits t).2) := by
  simp only [takeDigits,List.takeWhile_append_of_pos hd,List.dropWhile_append_of_pos hd,
    digitValues,List.filterMap_append]

theorem takeDigits_stop (ht : ∀ c ∈ t.head?, isDecimal c = false) : takeDigits t = ([],t) := by
  obtain ⟨htake,hdrop⟩ := Path.run_of_all (List.forall_mem_nil _) ht
  rw [List.nil_append] at htake hdrop
  rw [takeDigits,htake,hdrop]
  rfl

theorem takeDigits_suffix (t : List Char) : (takeDigits t).2 <:+ t := List.dropWhile_suffix _

theorem digitValues_ne_nil (hne : digits ≠ []) (hd : ∀ c ∈ digits, isDecimal c = true) :
    digitValues digits ≠ [] := by
  rw [← List.length_pos_iff,length_digitValues hd,List.length_pos_iff]
  exact hne

theorem isDecimal_point : isDecimal '.' = false := by decide

/-- The first character tells that the number itself begins. -/
theorem Significand.takeSign_eq (h : Significand body whole fraction) (hs : Sign u negative)
    (t : List Char) : takeSign (u ++ (body ++ t)) = (negative,body ++ t) := by
  cases h with
  | whole hne hd => exact takeSign_append hs hne hd
  | point hne hd hf =>
      rw [List.append_assoc]
      exact takeSign_append hs hne hd
  | fraction hne hf => cases hs <;> rfl

theorem Significand.takes (h : Significand body whole fraction) (t : List Char) :
    ∃ r rest, takeSignificand (body ++ t) = some (r,rest) ∧ rest <:+ t := by
  cases h with
  | whole hne hd =>
      have hrun := takeDigits_run hd t
      have hds : digitValues body ++ (takeDigits t).1 ≠ [] := by
        simp [digitValues_ne_nil hne hd]
      by_cases hpoint : (takeDigits t).2.head? = some '.'
      · obtain ⟨after,hafter⟩ := List.head?_eq_some_iff.mp hpoint
        refine ⟨_,_,takeSignificand_point (by rw [hrun,hafter]) hds,?_⟩
        have hsuffix := takeDigits_suffix t
        rw [hafter] at hsuffix
        exact ((takeDigits_suffix after).trans (List.suffix_cons '.' after)).trans hsuffix
      · exact ⟨_,_,takeSignificand_whole hrun hds hpoint,takeDigits_suffix t⟩
  | @point digits decimals hne hd hf =>
      have hrun : takeDigits (digits ++ '.' :: decimals ++ t) =
          (digitValues digits,'.' :: (decimals ++ t)) := by
        rw [List.append_assoc,takeDigits_run hd,takeDigits_stop (by simp [isDecimal_point])]
        simp
      refine ⟨_,_,takeSignificand_point hrun (digitValues_ne_nil hne hd),?_⟩
      rw [takeDigits_run hf]
      exact takeDigits_suffix t
  | @fraction decimals hne hf =>
      have hrun : takeDigits ('.' :: decimals ++ t) = ([],'.' :: (decimals ++ t)) :=
        takeDigits_stop (by simp [isDecimal_point])
      have htake : takeSignificand ('.' :: decimals ++ t) =
          some (([],some (digitValues decimals ++ (takeDigits t).1)),(takeDigits t).2) := by
        rw [takeSignificand_fraction hrun,takeDigits_run hf,
          if_neg (by simp [digitValues_ne_nil hne hf])]
      exact ⟨_,_,htake,takeDigits_suffix t⟩

theorem Significand.takes_all (h : Significand body whole fraction)
    (ht : ∀ c ∈ t.head?, isDecimal c = false ∧ c ≠ '.') :
    takeSignificand (body ++ t) = some ((whole,fraction),t) := by
  have hstop : takeDigits t = ([],t) := takeDigits_stop fun c hc => (ht c hc).1
  cases h with
  | whole hne hd =>
      refine takeSignificand_whole ?_ (digitValues_ne_nil hne hd) fun hpoint => ?_
      · rw [takeDigits_run hd,hstop,List.append_nil]
      · exact (ht '.' hpoint).2 rfl
  | @point digits decimals hne hd hf =>
      have hrun : takeDigits (digits ++ '.' :: decimals ++ t) =
          (digitValues digits,'.' :: (decimals ++ t)) := by
        rw [List.append_assoc,takeDigits_run hd,takeDigits_stop (by simp [isDecimal_point])]
        simp
      rw [takeSignificand_point hrun (digitValues_ne_nil hne hd),takeDigits_run hf,hstop,
        List.append_nil]
  | @fraction decimals hne hf =>
      have hrun : takeDigits ('.' :: decimals ++ t) = ([],'.' :: (decimals ++ t)) :=
        takeDigits_stop (by simp [isDecimal_point])
      rw [takeSignificand_fraction hrun,takeDigits_run hf,hstop,List.append_nil,
        if_neg (digitValues_ne_nil hne hf)]

theorem takeExponent_suffix (t : List Char) : (takeExponent t).2 <:+ t := by
  obtain ⟨power,-,ht⟩ := power_takeExponent t
  exact ⟨power,ht.symm⟩

theorem Power.takes (h : Power power exponent) (t : List Char) :
    (takeExponent (power ++ t)).2 <:+ t ∧
      ((∀ c ∈ t.head?, isDecimal c = false ∧ c ≠ 'e' ∧ c ≠ 'E') →
        takeExponent (power ++ t) = (exponent,t)) := by
  cases h with
  | none =>
      refine ⟨takeExponent_suffix t,fun ht => ?_⟩
      cases t with
      | nil => rfl
      | cons c t =>
          obtain ⟨-,he,hE⟩ := ht c rfl
          simp [takeExponent,he,hE]
  | @mark c sign digits negative hc hs hne hd =>
      have htake : takeExponent (c :: (sign ++ digits) ++ t) =
          (some (negative,digitValues digits ++ (takeDigits t).1),(takeDigits t).2) := by
        rw [List.cons_append,List.append_assoc,takeExponent_mark hc,takeSign_append hs hne hd,
          takeDigits_run hd,if_neg (by simp [digitValues_ne_nil hne hd])]
      rw [htake]
      refine ⟨takeDigits_suffix t,fun ht => ?_⟩
      rw [takeDigits_stop fun c hc => (ht c hc).1,List.append_nil]

theorem Numeral.scan_eq {r : List Nat × Option (List Nat)} (h : takeSign s = (negative,t))
    (ht : takeSignificand t = some (r,rest)) : Numeral.scan s =
      some (⟨negative,r.1,r.2,(takeExponent rest).1⟩,(takeExponent rest).2) := by
  obtain ⟨whole,fraction⟩ := r
  simp only [Numeral.scan,h,ht]

/-- A text that starts with a numeral is scanned to the end of it at least. -/
theorem Numeral.Written.scan_longest (h : Numeral.Written u n) (t : List Char) :
    ∃ m rest, Numeral.scan (u ++ t) = some (m,rest) ∧ rest <:+ t := by
  cases h with
  | @mk sign body power negative whole fraction exponent hs hb hp =>
      rw [List.append_assoc,List.append_assoc]
      have hsign := hb.takeSign_eq hs (power ++ t)
      cases hp with
      | none =>
          obtain ⟨r,rest,htake,hsuffix⟩ := hb.takes t
          exact ⟨_,_,Numeral.scan_eq hsign htake,(takeExponent_suffix rest).trans hsuffix⟩
      | @mark c sign' digits _ hc hs' hne hd =>
          have htake := hb.takes_all (t := c :: (sign' ++ digits) ++ t) (by
            rintro _ ⟨⟩
            rcases hc with rfl | rfl <;> decide)
          exact ⟨_,_,Numeral.scan_eq hsign htake,((Power.mark hc hs' hne hd).takes t).1⟩

/-- Blanks and the end of the text end a numeral. -/
theorem Numeral.Written.scan_eq (h : Numeral.Written u n)
    (ht : ∀ c ∈ t.head?, isBlank c = true) : Numeral.scan (u ++ t) = some (n,t) := by
  have hend (c : Char) (hc : c ∈ t.head?) :
      isDecimal c = false ∧ c ≠ '.' ∧ c ≠ 'e' ∧ c ≠ 'E' := by
    have hblank := ht c hc
    refine ⟨?_,?_,?_,?_⟩
    · rw [Bool.eq_false_iff]
      intro hd
      rw [isBlank_of_isDecimal hd] at hblank
      cases hblank
    all_goals
      rintro rfl
      exact absurd hblank (by decide)
  cases h with
  | @mk sign body power negative whole fraction exponent hs hb hp =>
      rw [List.append_assoc,List.append_assoc]
      have htake := hb.takes_all (t := power ++ t) (by
        cases hp with
        | none => exact fun c hc => ⟨(hend c hc).1,(hend c hc).2.1⟩
        | mark hc =>
            rintro _ ⟨⟩
            rcases hc with rfl | rfl <;> decide)
      rw [Numeral.scan_eq (hb.takeSign_eq hs (power ++ t)) htake,
        (hp.takes t).2 fun c hc => ⟨(hend c hc).1,(hend c hc).2.2⟩]

/-! ## What a numeral means -/

/-- The number that is written. -/
def Numeral.value (n : Numeral) : ℚ :=
  withSign n.negative (n.coefficient * 10 ^ (n.power - (n.fraction.getD []).length))

/-- A numeral is read as the binary number closest to what it means. -/
theorem Numeral.toBinary64_nearest (n : Numeral) : Binary64.Nearest n.value n.toBinary64 :=
  Binary64.ofScaled_nearest _ _ _

theorem Numeral.value_of_toInt? {k : Int} (h : n.toInt? = some k) : n.value = k := by
  obtain ⟨negative,whole,fraction,exponent⟩ := n
  rw [Numeral.toInt?] at h
  split at h
  · rename_i hf he
    dsimp only at hf he
    subst hf he
    split at h
    · cases h
      cases negative <;>
        simp [Numeral.value,withSign,signed,Numeral.coefficient,Numeral.power]
    · cases h
  · cases h

/-! ## Blanks around a numeral -/

theorem Significand.mem (h : Significand body whole fraction) :
    ∀ c ∈ body, isDecimal c = true ∨ c = '.' := by
  intro c hc
  cases h with
  | whole hne hd => exact Or.inl (hd c hc)
  | point hne hd hf =>
      rcases List.mem_append.mp hc with hc | hc
      · exact Or.inl (hd c hc)
      · rcases List.mem_cons.mp hc with rfl | hc
        · exact Or.inr rfl
        · exact Or.inl (hf c hc)
  | fraction hne hf =>
      rcases List.mem_cons.mp hc with rfl | hc
      · exact Or.inr rfl
      · exact Or.inl (hf c hc)

theorem Significand.ne_nil (h : Significand body whole fraction) : body ≠ [] := by
  cases h with
  | whole hne => exact hne
  | point => simp
  | fraction => exact List.cons_ne_nil _ _

theorem isBlank_of_sign (hs : Sign u negative) : ∀ c ∈ u, isBlank c = false := by
  cases hs with
  | none => nofun
  | plus => exact List.forall_mem_singleton.mpr (by decide)
  | minus => exact List.forall_mem_singleton.mpr (by decide)

theorem Numeral.Written.isBlank_eq (h : Numeral.Written u n) : ∀ c ∈ u, isBlank c = false := by
  intro c hc
  have hpoint : isBlank '.' = false := by decide
  cases h with
  | @mk sign body power _ _ _ _ hs hb hp =>
      rcases List.mem_append.mp hc with hc | hc
      · exact isBlank_of_sign hs c hc
      rcases List.mem_append.mp hc with hc | hc
      · rcases hb.mem c hc with hd | rfl
        · exact isBlank_of_isDecimal hd
        · exact hpoint
      cases hp with
      | none => cases hc
      | mark hm hs' hne hd =>
          rcases List.mem_cons.mp hc with rfl | hc
          · rcases hm with rfl | rfl <;> decide
          · rcases List.mem_append.mp hc with hc | hc
            · exact isBlank_of_sign hs' c hc
            · exact isBlank_of_isDecimal (hd c hc)

theorem Numeral.Written.ne_nil (h : Numeral.Written u n) : u ≠ [] := by
  cases h with
  | mk hs hb hp => simp [hb.ne_nil]

/-- The first character of a numeral is no blank. -/
theorem Numeral.Written.isBlank_head (h : Numeral.Written u n) (t : List Char) :
    ∀ c ∈ (u ++ t).head?, isBlank c = false := by
  intro c hc
  rw [List.head?_append_of_ne_nil _ h.ne_nil] at hc
  exact h.isBlank_eq c (List.mem_of_mem_head? hc)

theorem Numeral.Written.trimStart_eq (h : Numeral.Written u n) {before : List Char}
    (hb : ∀ c ∈ before, isBlank c = true) (t : List Char) :
    trimStart (before ++ (u ++ t)) = u ++ t :=
  (Path.run_of_all hb (h.isBlank_head t)).2

/-- A text spells a numeral if that is what it is, apart from blanks around it. -/
theorem Numeral.ofText?_eq_some_iff : Numeral.ofText? s = some n ↔
    ∃ before u after, s = before ++ (u ++ after) ∧ (∀ c ∈ before, isBlank c = true) ∧
      Numeral.Written u n ∧ ∀ c ∈ after, isBlank c = true := by
  constructor
  · intro h
    rw [Numeral.ofText?] at h
    split at h
    · rename_i m rest hscan
      split at h
      · rename_i hrest
        cases h
        obtain ⟨u,hu,hs⟩ := Numeral.written_of_scan hscan
        refine ⟨s.takeWhile isBlank,u,rest,?_,List.all_eq_true.mp List.all_takeWhile,hu,
          List.all_eq_true.mp hrest⟩
        rw [← hs,trimStart,List.takeWhile_append_dropWhile]
      · cases h
    · cases h
  · rintro ⟨before,u,after,rfl,hb,hu,ha⟩
    rw [Numeral.ofText?,hu.trimStart_eq hb,
      hu.scan_eq fun c hc => ha c (List.mem_of_mem_head? hc)]
    exact if_pos (List.all_eq_true.mpr ha)

/-! ## The readers of numbers -/

theorem digitsWithLowLines_of_isDecimal (hne : digits ≠ [])
    (hd : ∀ c ∈ digits, isDecimal c = true) :
    digitsWithLowLines digits = some (digitValues digits) := by
  have hline : isDecimal '_' = false := by decide
  induction digits using digitsWithLowLines.induct with
  | case1 => exact absurd rfl hne
  | case2 c =>
      obtain ⟨d,hc⟩ := Option.isSome_iff_exists.mp (hd c List.mem_cons_self)
      simp [digitsWithLowLines,digitValues,hc]
  | case3 c rest =>
      rw [hd '_' (by simp)] at hline
      cases hline
  | case4 c rest =>
      rw [hd '_' (by simp)] at hline
      cases hline
  | case5 c rest hnil hlow d hc ih =>
      have hrest := fun e he => hd e (List.mem_cons_of_mem c he)
      rw [digitsWithLowLines.eq_4 c rest hnil hlow,hc]
      simp [ih hnil hrest,digitValues,hc]
  | case6 c rest hnil hlow hc =>
      have hdecimal := hd c List.mem_cons_self
      rw [isDecimal,hc] at hdecimal
      cases hdecimal

/-- Digits and low lines are all that is read. -/
theorem mem_of_digitsWithLowLines {ds : List Nat} (h : digitsWithLowLines s = some ds) :
    ∀ c ∈ s, isDecimal c = true ∨ c = '_' := by
  induction s using digitsWithLowLines.induct generalizing ds with
  | case1 => exact List.forall_mem_nil _
  | case2 c =>
      obtain ⟨d,hd,-⟩ := Option.map_eq_some_iff.mp h
      simp [isDecimal,hd]
  | case3 c rest d hc ih =>
      rw [digitsWithLowLines.eq_3,hc] at h
      obtain ⟨es,hes,-⟩ := Option.map_eq_some_iff.mp h
      refine List.forall_mem_cons.mpr ⟨Or.inl (by rw [isDecimal,hc]; rfl),?_⟩
      exact List.forall_mem_cons.mpr ⟨Or.inr rfl,ih hes⟩
  | case4 c rest hc =>
      rw [digitsWithLowLines.eq_3,hc] at h
      cases h
  | case5 c rest hnil hlow d hc ih =>
      rw [digitsWithLowLines.eq_4 c rest hnil hlow,hc] at h
      obtain ⟨es,hes,-⟩ := Option.map_eq_some_iff.mp h
      exact List.forall_mem_cons.mpr ⟨Or.inl (by rw [isDecimal,hc]; rfl),ih hes⟩
  | case6 c rest hnil hlow hc =>
      rw [digitsWithLowLines.eq_4 c rest hnil hlow,hc] at h
      cases h

theorem isNumberBlank_eq_false {c : Char} (h : isBlank c = false) : isNumberBlank c = false := by
  rw [isNumberBlank,h,Bool.false_and]

/-- Only blanks before a numeral can be taken off. -/
theorem Numeral.Written.trimNumber_eq (h : Numeral.Written u n) (before : List Char) :
    trimNumber (before ++ u) = before.dropWhile isNumberBlank ++ u := by
  have hblank (c : Char) (hc : c ∈ u) : isNumberBlank c = false :=
    isNumberBlank_eq_false (h.isBlank_eq c hc)
  have hstart : (before ++ u).dropWhile isNumberBlank =
      before.dropWhile isNumberBlank ++ u := by
    have hu : u.dropWhile isNumberBlank = u := by
      rw [List.dropWhile_eq_self_iff]
      intro hlen
      simp [hblank _ (List.getElem_mem hlen)]
    rw [List.dropWhile_append,hu]
    split
    · rename_i hempty
      rw [List.isEmpty_iff.mp hempty,List.nil_append]
    · rfl
  have hend : List.rdropWhile isNumberBlank (before.dropWhile isNumberBlank ++ u) =
      before.dropWhile isNumberBlank ++ u := by
    rw [List.rdropWhile_eq_self_iff]
    intro hne
    rw [List.getLast_append_of_ne_nil _ h.ne_nil]
    simp [hblank _ (List.getLast_mem h.ne_nil)]
  rw [trimNumber,hstart]
  exact hend

/-- A numeral without point and power is what an integer is read from. -/
theorem Numeral.Written.readInt?_eq (h : Numeral.Written u n) : readInt? u = n.toInt? := by
  have htrim := h.trimNumber_eq []
  rw [List.dropWhile_nil,List.nil_append] at htrim
  rw [readInt?,htrim]
  cases h with
  | @mk sign body power negative whole fraction exponent hs hb hp =>
      rw [hb.takeSign_eq hs power]
      dsimp only
      have hnone {c : Char} (hc : c ∈ body ++ power) (hd : isDecimal c = false) (hl : c ≠ '_') :
          digitsWithLowLines (body ++ power) = none := by
        rw [Option.eq_none_iff_forall_ne_some]
        intro ds hds
        rcases mem_of_digitsWithLowLines hds c hc with h | h
        · rw [hd] at h
          cases h
        · exact hl h
      cases hp with
      | mark hm =>
          rename_i c sign' digits _ _ _ _
          have hc : isDecimal c = false ∧ c ≠ '_' := by
            rcases hm with rfl | rfl <;> decide
          rw [hnone (by simp) hc.1 hc.2]
          cases fraction <;> rfl
      | none =>
          cases hb with
          | whole hne hd =>
              simp [digitsWithLowLines_of_isDecimal hne hd,Numeral.toInt?]
          | point =>
              rw [hnone (c := '.') (by simp) isDecimal_point (by decide)]
              rfl
          | fraction =>
              rw [hnone (c := '.') (by simp) isDecimal_point (by decide)]
              rfl

theorem separator_cases {c : Char} (hc : isBlank c = true) (hn : isNumberBlank c = false) :
    c = '\x1c' ∨ c = '\x1d' ∨ c = '\x1e' ∨ c = '\x1f' := by
  rw [isNumberBlank,hc] at hn
  have hrange : 28 ≤ c.toNat ∧ c.toNat ≤ 31 := by simpa using hn
  have hcode (d : Char) (h : c.toNat = d.toNat) : c = d := by
    rw [← Char.ofNat_toNat c,h,Char.ofNat_toNat]
  have hcodes : c.toNat = 28 ∨ c.toNat = 29 ∨ c.toNat = 30 ∨ c.toNat = 31 := by omega
  exact hcodes.imp (hcode '\x1c') (Or.imp (hcode '\x1d') (Or.imp (hcode '\x1e') (hcode '\x1f')))

theorem Numeral.scan_eq_none {c : Char} (hsign : takeSign (c :: t) = (false,c :: t))
    (hd : isDecimal c = false) (hp : c ≠ '.') : Numeral.scan (c :: t) = none := by
  have hstop : takeDigits (c :: t) = ([],c :: t) := takeDigits_stop (by
    rintro _ ⟨⟩
    exact hd)
  have hnone : takeSignificand (c :: t) = none :=
    takeSignificand_none hstop (by simpa using hp)
  simp only [Numeral.scan,hsign,hnone]

/-- Nothing is read from a text that a separator is left in front of. -/
theorem readBinary64?_of_separator {c : Char} (hc : isBlank c = true)
    (hn : isNumberBlank c = false) (hs : trimNumber s = c :: t) : readBinary64? s = none := by
  rw [readBinary64?,hs]
  rcases separator_cases hc hn with rfl | rfl | rfl | rfl
  all_goals
    rw [Numeral.scan_eq_none rfl (by decide) (by decide)]
    rfl

/-- The reader of binary numbers takes a numeral with blanks of its own kind before it. -/
theorem Numeral.Written.readBinary64?_eq (h : Numeral.Written u n) {before : List Char}
    (hb : ∀ c ∈ before, isBlank c = true) : readBinary64? (before ++ u) =
      if before.all isNumberBlank then some n.toBinary64 else none := by
  have htrim := h.trimNumber_eq before
  split
  · rename_i hall
    have hscan := h.scan_eq (t := []) nofun
    rw [List.dropWhile_eq_nil_iff.mpr (List.all_eq_true.mp hall),List.nil_append] at htrim
    rw [List.append_nil] at hscan
    rw [readBinary64?,htrim,hscan]
  · rename_i hall
    cases hrest : before.dropWhile isNumberBlank with
    | nil => exact absurd (List.all_eq_true.mpr (List.dropWhile_eq_nil_iff.mp hrest)) hall
    | cons c rest =>
        have hc : c ∈ before.dropWhile isNumberBlank := by
          rw [hrest]
          exact List.mem_cons_self
        have hn : isNumberBlank c = false := by
          have hhead := List.head?_dropWhile_not isNumberBlank before
          rw [hrest] at hhead
          simpa using hhead
        rw [hrest,List.cons_append] at htrim
        exact readBinary64?_of_separator (hb c ((List.dropWhile_sublist _).mem hc)) hn htrim

end

end Vetting.Number
