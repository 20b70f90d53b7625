import Vetting.Proofs.Number.Numeral

/-!
# Integers that values spell

Integers are read from integers, from texts, and from numbers that come to one. The reading is
exact for integers and the texts of their digits; of a decimal, or a text with a point or a power,
the closest binary number is read. It goes by way of binary numbers for all texts, and that is
where it can fail: on texts of integers beyond the binary numbers. It fails on the signalling NaN
as well.
-/
namespace Vetting
open Number Text

namespace Value

/-- The number that a value is or spells. -/
inductive Amounts : Value → ℚ → Prop
  | int {n : Int} : Amounts (.int n) n
  | float {x : Binary64} {q : ℚ} (h : x.value? = some q) : Amounts (.float x) q
  | decimal {negative : Bool} {c : Nat} {e : Int} :
      Amounts (.decimal (.finite negative c e)) (withSign negative (c * 10 ^ e))
  | text {s : String} {m : Numeral} (hm : Numeral.ofText? s.toList = some m) :
      Amounts (.text s) m.value

def Spells (v : Value) (n : Int) : Prop := v.Amounts n

/-- The integers that values are read as: integers and texts of them as what they are, decimals
and numbers with a point or a power by way of the closest binary number. -/
inductive ReadAs : Value → Int → Prop
  | denoted {v : Value} {n : Int} (h : Denotes v n) : ReadAs v n
  | float {x : Binary64} {n : Int} (h : x.value? = some (n : ℚ)) : ReadAs (.float x) n
  | decimal {d : Decimal} {x : Binary64} {n : Int} (hx : d.toBinary64? = some x)
      (h : x.value? = some (n : ℚ)) : ReadAs (.decimal d) n
  | numeral {s : String} {m : Numeral} {n : Int} (hm : Numeral.ofText? s.toList = some m)
      (hi : m.toInt? = none) (h : m.toBinary64.value? = some (n : ℚ)) : ReadAs (.text s) n

/-- Numbers that cannot be read as binary numbers. -/
inductive Unreadable : Value → Prop
  | tooLarge {s : String} {n : Int} (h : Denotes (.text s) n)
      (hn : Binary64.overflow ≤ |(n : ℚ)|) : Unreadable (.text s)
  | signal {negative : Bool} {payload : Nat} : Unreadable (.decimal (.signalNaN negative payload))

section
variable {v : Value} {s : String} {n k : Int} {m : Numeral}

/-! ## Integers as binary numbers -/

/-- An integer has a binary number close to it unless it lies beyond the largest one. -/
theorem intFloat_cases (n : Int) :
    (|(n : ℚ)| < Binary64.overflow ∧ ∃ x, intFloat n = .ok x ∧ Binary64.Nearest n x) ∨
      Binary64.overflow ≤ |(n : ℚ)| ∧ intFloat n = .error .tooLarge := by
  have hnearest := Binary64.ofInt_nearest n
  rw [intFloat]
  cases hx : Binary64.ofInt n with
  | nan =>
      rw [hx] at hnearest
      cases hnearest
  | infinite negative =>
      rw [hx] at hnearest
      cases hnearest with
      | infinite hsize => exact Or.inr ⟨hsize,rfl⟩
  | finite negative m e =>
      rw [hx] at hnearest
      exact Or.inl ⟨hnearest.isFinite_iff.mp rfl,_,rfl,hnearest⟩

/-! ## Texts -/

theorem denotes_text_iff : Denotes (.text s) n ↔
    ∃ m, Numeral.ofText? s.toList = some m ∧ m.toInt? = some n := by
  constructor
  · intro h
    obtain ⟨m,hm,hn⟩ := Option.map_eq_some_iff.mp (Except.ok.inj h.toNumber_eq)
    refine ⟨m,hm,?_⟩
    rw [numeralNumber] at hn
    split at hn
    · cases hn
      assumption
    · cases hn
  · rintro ⟨m,hm,hn⟩
    obtain ⟨before,u,after,hs,hb,hu,ha⟩ := Numeral.ofText?_eq_some_iff.mp hm
    cases hu with
    | @mk sign body power negative whole fraction exponent hsign hbody hpower =>
        cases hbody with
        | @whole digits hne hd =>
            cases hpower with
            | none =>
                rw [Numeral.toInt?,length_digitValues hd] at hn
                dsimp only at hn
                split at hn
                · rename_i hlen
                  cases hn
                  have hdenotes := Denotes.text hb hsign hne hd hlen ha
                  rw [List.append_nil,List.append_assoc] at hs
                  rwa [← hs,String.ofList_toList] at hdenotes
                · cases hn
            | mark => cases hn
        | point => cases hn
        | fraction => cases hn

theorem spells_of_denotes (h : Denotes v n) : v.Spells n := by
  cases v with
  | int =>
      cases h
      exact .int
  | text s =>
      obtain ⟨m,hm,hn⟩ := denotes_text_iff.mp h
      have hamounts : Amounts (.text s) m.value := .text hm
      rwa [Numeral.value_of_toInt? hn] at hamounts
  | _ => cases h

/-- An integer that is read has been spelled, or the number spelled is as close to it as binary
numbers are. -/
theorem ReadAs.spells_or_closest (h : v.ReadAs n) : v.Spells n ∨
    ∃ q x, v.Amounts q ∧ Binary64.Nearest q x ∧ x.value? = some (n : ℚ) := by
  cases h with
  | denoted h => exact Or.inl (spells_of_denotes h)
  | float h => exact Or.inl (.float h)
  | @decimal d x n hx h =>
      cases d with
      | finite negative c e =>
          cases hx
          exact Or.inr ⟨_,_,.decimal,Binary64.ofScaled_nearest negative c e,h⟩
      | infinite => cases hx; cases h
      | quietNaN => cases hx; cases h
      | signalNaN => cases hx
  | @numeral s m n hm _ h => exact Or.inr ⟨_,_,.text hm,m.toBinary64_nearest,h⟩

theorem toInt_text (s : String) : (Value.text s).toInt =
    match Numeral.ofText? s.toList with
    | none => .ok none
    | some m =>
        match m.toInt? with
        | some n => (intFloat n).map fun _ => some n
        | none => .ok (if m.toBinary64.isInteger then some m.toBinary64.floor else none) := by
  simp only [toInt,toNumber]
  cases Numeral.ofText? s.toList with
  | none => rfl
  | some m =>
      simp only [Option.map_some,numeralNumber]
      cases m.toInt? <;> rfl

/-- The number that a text of digits is read by is not looked at, but there has to be one. -/
theorem toInt_of_denotes (h : Denotes (.text s) n) :
    (Value.text s).toInt = (intFloat n).map fun _ => some n := by
  obtain ⟨m,hm,hn⟩ := denotes_text_iff.mp h
  rw [toInt_text,hm]
  dsimp only
  rw [hn]

theorem toInt_exact_iff (h : Denotes (.text s) n) :
    (Value.text s).toInt = .ok (some n) ↔ |(n : ℚ)| < Binary64.overflow := by
  rw [toInt_of_denotes h]
  rcases intFloat_cases n with ⟨hsize,x,hx,-⟩ | ⟨hsize,hx⟩
  · rw [hx]
    exact iff_of_true rfl hsize
  · rw [hx]
    exact iff_of_false nofun (not_lt.mpr hsize)

theorem toInt_decimal (d : Decimal) : (Value.decimal d).toInt =
    match d.toBinary64? with
    | some x => .ok (if x.isInteger then some x.floor else none)
    | none => .error .badValue := by
  simp only [toInt,toNumber,decimalNumber]
  cases d.toBinary64? <;> rfl

/-! ## What is read -/

/-- A value is read as an integer, as none, or not at all, whichever it is good for. -/
inductive Reading (v : Value) : Except Fault (Option Int) → Prop
  | integer {n : Int} (h : v.ReadAs n) (hr : ¬ v.Unreadable) : Reading v (.ok (some n))
  | none (h : ∀ n, ¬ v.ReadAs n) (hr : ¬ v.Unreadable) : Reading v (.ok none)
  | fault {f : Fault} (h : v.Unreadable) (hf : f = .tooLarge ∨ f = .badValue) :
      Reading v (.error f)

theorem reading_binary {x : Binary64} (hs : ∀ n, v.ReadAs n ↔ x.value? = some (n : ℚ))
    (hr : ¬ v.Unreadable) :
    Reading v (.ok (if x.isInteger then some x.floor else Option.none)) := by
  cases hx : (if x.isInteger then some x.floor else Option.none) with
  | none =>
      refine .none (fun n hn => ?_) hr
      rw [Binary64.floor_eq_some_iff.mpr ((hs n).mp hn)] at hx
      cases hx
  | some n => exact .integer ((hs n).mpr (Binary64.floor_eq_some_iff.mp hx)) hr

theorem Denotes.unique (h : Denotes v n) (h' : Denotes v k) : n = k := by
  cases h.toNumber_eq.symm.trans h'.toNumber_eq
  rfl

theorem reading_digits (h : Denotes (.text s) n) : Reading (.text s) (Value.text s).toInt := by
  rw [toInt_of_denotes h]
  rcases intFloat_cases n with ⟨hsize,x,hx,-⟩ | ⟨hsize,hx⟩
  · rw [hx]
    refine .integer (.denoted h) fun hr => ?_
    cases hr with
    | tooLarge h' hn =>
        cases h.unique h'
        exact absurd hsize (not_lt.mpr hn)
  · rw [hx]
    exact .fault (.tooLarge h hsize) (Or.inl rfl)

theorem reading_numeral (hm : Numeral.ofText? s.toList = some m) (hi : m.toInt? = none) :
    Reading (.text s) (Value.text s).toInt := by
  have hnone (n : Int) : ¬ Denotes (.text s) n := by
    rw [denotes_text_iff,hm]
    rintro ⟨_,⟨⟩,hn⟩
    cases hi.symm.trans hn
  rw [toInt_text,hm]
  dsimp only
  rw [hi]
  refine reading_binary (fun n => ⟨fun hn => ?_,.numeral hm hi⟩) fun hr => ?_
  · cases hn with
    | denoted h => exact absurd h (hnone n)
    | numeral hm' _ h =>
        cases hm.symm.trans hm'
        exact h
  · cases hr with
    | tooLarge h => exact hnone _ h

theorem reading_text (s : String) : Reading (.text s) (Value.text s).toInt := by
  cases hm : Numeral.ofText? s.toList with
  | none =>
      have hnone (n : Int) : ¬ Denotes (.text s) n := by
        rw [denotes_text_iff,hm]
        rintro ⟨m,⟨⟩,-⟩
      rw [toInt_text,hm]
      refine .none (fun n hn => ?_) fun hr => ?_
      · cases hn with
        | denoted h => exact hnone n h
        | numeral h => cases hm.symm.trans h
      · cases hr with
        | tooLarge h => exact hnone _ h
  | some m =>
      cases hi : m.toInt? with
      | some n => exact reading_digits (denotes_text_iff.mpr ⟨m,hm,hi⟩)
      | none => exact reading_numeral hm hi

/-- The reading of every value comes to what the value is good for. -/
theorem toInt_reading (v : Value) : Reading v v.toInt := by
  cases v with
  | int n => exact .integer (.denoted (.int n)) nofun
  | float x =>
      refine reading_binary (fun n => ⟨?_,.float⟩) nofun
      rintro (⟨⟨⟩⟩ | h)
      exact h
  | decimal d =>
      rw [toInt_decimal]
      cases hx : d.toBinary64? with
      | none =>
          cases d with
          | signalNaN => exact .fault .signal (Or.inr rfl)
          | _ => cases hx
      | some x =>
          refine reading_binary (fun n => ⟨?_,.decimal hx⟩) ?_
          · rintro (⟨⟨⟩⟩ | _ | ⟨hx',h⟩)
            rw [hx] at hx'
            cases hx'
            exact h
          · rintro ⟨⟩
            cases hx
  | text s => exact reading_text s
  | _ => exact .none (by rintro n ⟨⟨⟩⟩) nofun

theorem exists_toInt_error_iff : (∃ f, v.toInt = .error f) ↔ v.Unreadable := by
  have hread := toInt_reading v
  constructor
  · rintro ⟨f,hf⟩
    rw [hf] at hread
    cases hread with
    | fault h => exact h
  · intro h
    cases hv : v.toInt with
    | error f => exact ⟨f,rfl⟩
    | ok o =>
        rw [hv] at hread
        cases hread with
        | integer _ hr => exact absurd h hr
        | none _ hr => exact absurd h hr

theorem toInt_of_readAs (h : v.ReadAs n) (hr : ¬ v.Unreadable) : v.toInt = .ok (some n) := by
  cases h with
  | denoted h =>
      cases v with
      | int => cases h; rfl
      | text s => exact (toInt_exact_iff h).mpr (not_le.mp fun hn => hr (.tooLarge h hn))
      | _ => cases h
  | float h => exact congrArg Except.ok (Binary64.floor_eq_some_iff.mpr h)
  | decimal hx h =>
      rw [toInt_decimal,hx]
      exact congrArg Except.ok (Binary64.floor_eq_some_iff.mpr h)
  | numeral hm hi h =>
      rw [toInt_text,hm]
      dsimp only
      rw [hi]
      exact congrArg Except.ok (Binary64.floor_eq_some_iff.mpr h)

/-- An integer is read from exactly the values that are read as it, if they can be read. -/
theorem toInt_eq_some_iff : v.toInt = .ok (some n) ↔ v.ReadAs n ∧ ¬ v.Unreadable := by
  refine ⟨fun h => ?_,fun h => toInt_of_readAs h.1 h.2⟩
  have hread := toInt_reading v
  rw [h] at hread
  cases hread with
  | integer hn hr => exact ⟨hn,hr⟩

end

end Value

end Vetting
