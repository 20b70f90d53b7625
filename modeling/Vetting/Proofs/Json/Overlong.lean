import Mathlib.Data.List.Infix
import Mathlib.Data.List.TakeWhile
import Vetting.Json.Decode

/-!
# Integers of too many digits in JSON

Reading a value from JSON leaves a rest of the text, or finds the text malformed. There is no
other trouble unless an integer has too many digits, and these then stand in the text as a run.
-/
namespace Vetting.Json
open Text Number

/-- More digits in a row than an integer is read from. -/
def Overlong (s : List Char) : Prop :=
  ∃ ds, ds <:+: s ∧ digitLimit < ds.length ∧ ∀ c ∈ ds, isAsciiDigit c = true

/-- What can come of reading a text. -/
inductive Reads {α : Type} (s : List Char) : Except Trouble (α × List Char) → Prop
  | ok {a : α} {rest : List Char} (h : rest <:+ s) : Reads s (.ok (a,rest))
  | malformed : Reads s (.error .malformed)
  | tooManyDigits (h : Overlong s) : Reads s (.error .tooManyDigits)

section
variable {α β : Type} {s t rest : List Char} {r : Except Trouble (α × List Char)}
  {f : α × List Char → Except Trouble (β × List Char)}

theorem Overlong.mono (h : Overlong t) (ht : t <:+ s) : Overlong s := by
  obtain ⟨ds,hds,hlen,hdigits⟩ := h
  exact ⟨ds,hds.trans ht.isInfix,hlen,hdigits⟩

theorem Reads.mono (h : Reads t r) (ht : t <:+ s) : Reads s r := by
  cases h with
  | ok h => exact .ok (h.trans ht)
  | malformed => exact .malformed
  | tooManyDigits h => exact .tooManyDigits (h.mono ht)

/-- What is read next is read from a rest. -/
theorem Reads.bind (h : Reads s r) (hf : ∀ a rest, rest <:+ s → Reads s (f (a,rest))) :
    Reads s (r >>= f) := by
  cases h with
  | ok h => exact hf _ _ h
  | malformed => exact .malformed
  | tooManyDigits h => exact .tooManyDigits h

theorem skipBlanks_suffix (s : List Char) : skipBlanks s <:+ s := List.dropWhile_suffix _

theorem suffix_of_skipBlanks {c : Char} (h : skipBlanks s = c :: t) : t <:+ s :=
  (List.suffix_cons c t).trans (h ▸ skipBlanks_suffix s)

/-! ## Strings -/

theorem takeUnit_suffix {n : Nat} (h : takeUnit s = some (n,rest)) : rest <:+ s := by
  rw [takeUnit] at h
  split at h
  · cases h
    exact List.drop_suffix 4 s
  · cases h

theorem takeEscapedUnit_reads (s : List Char) : Reads s (takeEscapedUnit s) := by
  rw [takeEscapedUnit]
  split
  · exact .malformed
  · rename_i n rest hunit
    have hrest := takeUnit_suffix hunit
    split
    · rename_i more _
      have hmore : more <:+ s :=
        ((List.suffix_cons 'u' more).trans (List.suffix_cons '\\' ('u' :: more))).trans hrest
      split
      · exact .malformed
      · rename_i m left hlow
        split
        · exact .ok ((takeUnit_suffix hlow).trans hmore)
        · exact .ok hrest
    · exact .ok hrest

theorem Reads.cons {r : Except Trouble (List Char × List Char)} (h : Reads s r) (c : Char) :
    Reads s (r >>= fun r => .ok (c :: r.1,r.2)) :=
  h.bind fun _ _ h => .ok h

theorem takeString_reads (fuel : Nat) (s : List Char) : Reads s (takeString fuel s) := by
  fun_induction takeString fuel s with
  | case1 => exact .malformed
  | case2 => exact .malformed
  | case3 fuel rest => exact .ok (List.suffix_cons '"' rest)
  | case4 fuel rest ih =>
      have hs : rest <:+ '\\' :: 'u' :: rest :=
        (List.suffix_cons 'u' rest).trans (List.suffix_cons '\\' ('u' :: rest))
      refine ((takeEscapedUnit_reads rest).mono hs).bind fun c left hleft => ?_
      exact ((ih left).mono hleft).cons c
  | case5 fuel c rest hu d hd ih =>
      have hs : rest <:+ '\\' :: c :: rest :=
        (List.suffix_cons c rest).trans (List.suffix_cons '\\' (c :: rest))
      exact (ih.mono hs).cons d
  | case6 => exact .malformed
  | case7 => exact .malformed
  | case8 fuel c rest _ _ _ _ ih => exact (ih.mono (List.suffix_cons c rest)).cons c

/-! ## Numbers and words -/

theorem takeAsciiDigits_suffix (s : List Char) : (takeAsciiDigits s).2 <:+ s :=
  List.dropWhile_suffix _

theorem takeSign_suffix (s : List Char) : (takeSign s).2 <:+ s := by
  unfold takeSign
  split
  · exact List.suffix_cons _ _
  · exact List.suffix_cons _ _
  · exact List.suffix_rfl

/-- The digits before a point are a run at the front. -/
theorem takeWhole_eq {ds : List Char} (h : takeWhole s = some (ds,rest)) :
    s = ds ++ rest ∧ ∀ c ∈ ds, isAsciiDigit c = true := by
  unfold takeWhole at h
  split at h
  · cases h
    exact ⟨rfl,List.forall_mem_singleton.mpr rfl⟩
  · split at h
    · cases h
      exact ⟨List.takeWhile_append_dropWhile.symm,List.all_eq_true.mp List.all_takeWhile⟩
    · cases h
  · cases h

theorem takeFraction_suffix (s : List Char) : (takeFraction s).2 <:+ s := by
  unfold takeFraction
  split
  · rename_i rest
    have hrest := takeAsciiDigits_suffix rest
    split
    · exact List.suffix_rfl
    · rename_i ds left _ hleft
      rw [hleft] at hrest
      exact hrest.trans (List.suffix_cons '.' rest)
  · exact List.suffix_rfl

theorem takePower_suffix (s : List Char) : (takePower s).2 <:+ s := by
  unfold takePower
  split
  · rename_i c rest
    have hrest := (takeAsciiDigits_suffix (takeSign rest).2).trans (takeSign_suffix rest)
    split
    · dsimp only
      split
      · exact List.suffix_rfl
      · rename_i ds left _ hleft
        rw [hleft] at hrest
        exact hrest.trans (List.suffix_cons c rest)
    · exact List.suffix_rfl
  · exact List.suffix_rfl

theorem takeNumber_reads (s : List Char) : Reads s (takeNumber s) := by
  unfold takeNumber
  extract_lets sign
  have hsign : sign.2 <:+ s := by
    dsimp only [sign]
    split
    · exact List.suffix_cons _ _
    · exact List.suffix_rfl
  split
  · exact .malformed
  · rename_i ds rest hwhole
    obtain ⟨hs,hdigits⟩ := takeWhole_eq hwhole
    have hrest := (List.suffix_append ds rest).trans (hs ▸ hsign)
    have hleft := ((takePower_suffix _).trans (takeFraction_suffix rest)).trans hrest
    dsimp only
    split
    · split
      · exact .ok hleft
      · rename_i hlen
        refine .tooManyDigits ⟨ds,?_,not_le.mp hlen,hdigits⟩
        exact (List.prefix_append ds rest).isInfix.trans (hs ▸ hsign).isInfix
    · exact .ok hleft

theorem takeWord_suffix {v : Value} (h : takeWord s = some (v,rest)) : rest <:+ s := by
  obtain ⟨w,-,hw⟩ := Option.map_eq_some_iff.mp h
  cases hw
  exact List.drop_suffix _ s

/-! ## Values -/

section
variable {fuel : Nat} (hvalue : ∀ s, Reads s (takeValue fuel s))
  (hitems : ∀ s, Reads s (takeItems fuel s)) (hentries : ∀ es s, Reads s (takeEntries fuel es s))

include hitems hentries in
theorem takeValue_reads (s : List Char) : Reads s (takeValue (fuel + 1) s) := by
  unfold takeValue
  split
  · rename_i rest
    exact ((takeString_reads _ rest).mono (List.suffix_cons _ _)).bind fun _ _ h => .ok h
  · rename_i rest
    have hopen := List.suffix_cons '[' rest
    split
    · rename_i left hleft
      exact .ok ((suffix_of_skipBlanks hleft).trans hopen)
    · exact ((hitems _).mono ((skipBlanks_suffix rest).trans hopen)).bind fun _ _ h => .ok h
  · rename_i rest
    have hopen := List.suffix_cons '\x7b' rest
    split
    · rename_i left hleft
      exact .ok ((suffix_of_skipBlanks hleft).trans hopen)
    · exact ((hentries _ _).mono ((skipBlanks_suffix rest).trans hopen)).bind fun _ _ h => .ok h
  · split
    · rename_i r hword
      obtain ⟨v,rest⟩ := r
      exact .ok (takeWord_suffix hword)
    · exact takeNumber_reads s

include hvalue hitems in
theorem takeItems_reads (s : List Char) : Reads s (takeItems (fuel + 1) s) := by
  rw [takeItems]
  refine (hvalue s).bind fun x rest hrest => ?_
  dsimp only
  split
  · rename_i left hleft
    exact .ok ((suffix_of_skipBlanks hleft).trans hrest)
  · rename_i left hleft
    have hmore := (skipBlanks_suffix left).trans ((suffix_of_skipBlanks hleft).trans hrest)
    exact ((hitems _).mono hmore).bind fun _ _ h => .ok h
  · exact .malformed

include hvalue hentries in
theorem takeEntries_reads (es : List (Value × Value)) (s : List Char) :
    Reads s (takeEntries (fuel + 1) es s) := by
  unfold takeEntries
  split
  · rename_i rest
    refine ((takeString_reads _ rest).mono (List.suffix_cons _ _)).bind fun cs left hleft => ?_
    dsimp only
    split
    · rename_i after hafter
      have hvalueAt := (skipBlanks_suffix after).trans ((suffix_of_skipBlanks hafter).trans hleft)
      refine ((hvalue _).mono hvalueAt).bind fun v more hmore => ?_
      dsimp only
      split
      · rename_i last hlast
        exact .ok ((suffix_of_skipBlanks hlast).trans hmore)
      · rename_i last hlast
        exact (hentries _ _).mono
          ((skipBlanks_suffix last).trans ((suffix_of_skipBlanks hlast).trans hmore))
      · exact .malformed
    · exact .malformed
  · exact .malformed

end

theorem readers_read (fuel : Nat) : (∀ s, Reads s (takeValue fuel s)) ∧
    (∀ s, Reads s (takeItems fuel s)) ∧ ∀ es s, Reads s (takeEntries fuel es s) := by
  induction fuel with
  | zero =>
      refine ⟨fun s => ?_,fun s => ?_,fun es s => ?_⟩
      · rw [takeValue]
        exact .malformed
      · rw [takeItems]
        exact .malformed
      · rw [takeEntries]
        exact .malformed
  | succ fuel ih =>
      obtain ⟨hvalue,hitems,hentries⟩ := ih
      exact ⟨takeValue_reads hitems hentries,takeItems_reads hvalue hitems,
        takeEntries_reads hvalue hentries⟩

/-- Decoding meets with an integer of too many digits only if they are there. -/
theorem overlong_of_decode {s : String} (h : decode s = .error .tooManyDigits) :
    Overlong s.toList := by
  have hread := ((readers_read (2 * (skipBlanks s.toList).length + 2)).1
    (skipBlanks s.toList)).mono (skipBlanks_suffix s.toList)
  rw [decode] at h
  dsimp only at h
  generalize takeValue (2 * (skipBlanks s.toList).length + 2) (skipBlanks s.toList) = r at *
  cases hread with
  | ok hrest =>
      dsimp only [Bind.bind,Except.bind] at h
      split at h <;> cases h
  | malformed => cases h
  | tooManyDigits hlong => exact hlong

end

/-- A text of nothing but digits, too many of them. -/
theorem decode_replicate {n : Nat} (h : digitLimit < n) :
    decode (String.ofList (List.replicate n '1')) = .error .tooManyDigits := by
  obtain ⟨n,rfl⟩ := Nat.exists_eq_succ_of_ne_zero (Nat.ne_of_gt (Nat.zero_lt_of_lt h))
  have hall : ∀ c ∈ List.replicate (n + 1) '1', isAsciiDigit c = true := by
    intro c hc
    rw [List.eq_of_mem_replicate hc]
    decide
  have hdigits : takeAsciiDigits ('1' :: List.replicate n '1') =
      ('1' :: List.replicate n '1',[]) := by
    rw [← List.replicate_succ,takeAsciiDigits,List.takeWhile_eq_self_iff.mpr hall,
      List.dropWhile_eq_nil_iff.mpr hall]
  have hnumber : takeNumber ('1' :: List.replicate n '1') = .error .tooManyDigits := by
    have hwhole : takeWhole ('1' :: List.replicate n '1') =
        some ('1' :: List.replicate n '1',[]) := by
      rw [takeWhole,if_pos (by decide),hdigits]
      decide
    have hlen : ¬ n + 1 ≤ digitLimit := not_le.mpr h
    simp [takeNumber,hwhole,takeFraction,takePower,hlen]
  have hvalue (fuel : Nat) :
      takeValue (fuel + 1) ('1' :: List.replicate n '1') = .error .tooManyDigits := by
    have hword : takeWord ('1' :: List.replicate n '1') = none := rfl
    simp [takeValue,hword,hnumber]
  have hskip : skipBlanks ('1' :: List.replicate n '1') = '1' :: List.replicate n '1' := rfl
  rw [decode,String.toList_ofList,List.replicate_succ,hskip]
  simp only [hvalue]
  rfl

end Vetting.Json
