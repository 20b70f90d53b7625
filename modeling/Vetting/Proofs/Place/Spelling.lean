import Mathlib.Data.List.Induction
import Mathlib.Data.List.TakeWhile
import Mathlib.Data.Nat.Digits.Defs
import Vetting.Proofs.Place.Search

/-!
# Paths as they are written

The keys of a path are read off its text from left to right: a name is a longest run of
characters that are no separators, an index is a number in brackets, and all else is passed
over. So a point always parts two keys. Keys that can be written, a name without separators
or an index that is not too long, are read back from what they are written as, and all keys
that are read can be written.
-/
namespace Vetting
open Text Number

/-! ## Digits -/

namespace Text

theorem digitValue?_of_isDigit {c : Char} (h : c.isDigit = true) :
    digitValue? c = some (c.toNat - '0'.toNat) := by
  have hbounds : 48 ≤ c.toNat ∧ c.toNat < 58 := by
    rw [Char.isDigit,Bool.and_eq_true,decide_eq_true_eq,decide_eq_true_eq] at h
    exact ⟨h.1,Nat.lt_succ_of_le h.2⟩
  have hfind : digitZeros.find? (fun z => z ≤ c.toNat && c.toNat < z + 10) = some 48 := by
    rw [digitZeros,List.find?_cons_of_pos]
    simpa using hbounds
  rw [digitValue?,hfind]
  rfl

theorem lt_of_digitValue? {c : Char} {d : Nat} (h : digitValue? c = some d) : d < 10 := by
  obtain ⟨z,hz,rfl⟩ := Option.map_eq_some_iff.mp h
  have hp := List.find?_some hz
  simp only [Bool.and_eq_true,decide_eq_true_eq] at hp
  omega

theorem digitValues_of_isDigit {s : List Char} (h : ∀ c ∈ s, c.isDigit = true) :
    digitValues s = s.map fun c => c.toNat - '0'.toNat := by
  induction s with
  | nil => rfl
  | cons c rest ih =>
      obtain ⟨hc,hrest⟩ := List.forall_mem_cons.mp h
      have hr := ih hrest
      rw [digitValues] at hr ⊢
      rw [List.filterMap_cons_some (digitValue?_of_isDigit hc),hr,List.map_cons]

theorem isDigit_decimalDigits (n : Nat) : ∀ c ∈ decimalDigits n, c.isDigit = true :=
  fun _ hc => Nat.isDigit_of_mem_toDigits (by omega) (by omega) hc

/-- A number is read off its digits. -/
theorem ofDigits_decimalDigits (n : Nat) : ofDigits (digitValues (decimalDigits n)) = n := by
  rw [digitValues_of_isDigit (isDigit_decimalDigits n),ofDigits,List.foldl_map]
  have h := Nat.ofDigitChars_ten_toDigits (n := n)
  rw [Nat.ofDigitChars_eq_foldl] at h
  simp only [Nat.mul_comm 10] at h
  exact h

theorem ofDigits_lt {ds : List Nat} (h : ∀ d ∈ ds, d < 10) : ofDigits ds < 10 ^ ds.length := by
  induction ds using List.reverseRecOn with
  | nil => simp [ofDigits]
  | append_singleton ds d ih =>
      have hds := ih fun e he => h e (List.mem_append_left _ he)
      have hd := h d (by simp)
      rw [ofDigits,List.foldl_append,List.length_append,List.length_singleton,Nat.pow_succ]
      rw [ofDigits] at hds
      simp only [List.foldl_cons,List.foldl_nil]
      omega

end Text

namespace Key

/-- Keys that can be written: a name that is not empty and has no separators, or an index
with no more digits than a number is read from. -/
def Writable : Key → Prop
  | .name t => t ≠ [] ∧ ∀ c ∈ t, Path.isSeparator c = false
  | .index n => (decimalDigits n).length ≤ digitLimit

end Key

namespace Path

/-! ## The scan -/

theorem tokens_point (s : List Char) : tokens ('.' :: s) = tokens s := by
  simp [tokens,isSeparator]

theorem tokens_bracket {s left : List Char} {ds : List Nat}
    (h : bracketed? s = some (ds,left)) : tokens ('[' :: s) = .inr ds :: tokens left := by
  rw [tokens]
  split
  · rename_i hs
    rw [h] at hs
    cases hs
    rfl
  · rename_i hs
    rw [h] at hs
    cases hs

theorem tokens_bracket_none {s : List Char} (h : bracketed? s = none) :
    tokens ('[' :: s) = tokens s := by
  rw [tokens]
  split
  · rename_i hs
    rw [h] at hs
    cases hs
  · rfl

theorem tokens_name {c : Char} (hc : isSeparator c = false) (s : List Char) :
    tokens (c :: s) = .inl (c :: s.takeWhile fun d => !isSeparator d) ::
      tokens (s.dropWhile fun d => !isSeparator d) := by
  have hne : c ≠ '[' := by
    rintro rfl
    cases hc
  rw [tokens.eq_3 c s hne,hc]
  rfl

/-- What follows a character at which a run stops does not lengthen the run. -/
theorem run_append {p : Char → Bool} {t : List Char} (ht : ∀ c ∈ t.head?, p c = false)
    (s : List Char) : (s ++ t).takeWhile p = s.takeWhile p ∧
      (s ++ t).dropWhile p = s.dropWhile p ++ t := by
  induction s with
  | nil =>
      cases t with
      | nil => exact ⟨rfl,rfl⟩
      | cons c rest => simp [ht c rfl]
  | cons c rest ih =>
      cases hc : p c with
      | true => simp [hc,ih]
      | false => simp [hc]

/-- A run ends where what follows it stops it. -/
theorem run_of_all {p : Char → Bool} {s t : List Char} (hs : ∀ c ∈ s, p c = true)
    (ht : ∀ c ∈ t.head?, p c = false) : (s ++ t).takeWhile p = s ∧ (s ++ t).dropWhile p = t := by
  obtain ⟨htake,hdrop⟩ := run_append ht s
  rw [htake,hdrop,List.takeWhile_eq_self_iff.mpr hs,List.dropWhile_eq_nil_iff.mpr hs]
  exact ⟨rfl,rfl⟩

theorem bracketed?_append {t : List Char} (ht : ∀ c ∈ t.head?, isDecimal c = false ∧ c ≠ ']')
    (s : List Char) : bracketed? (s ++ t) = (bracketed? s).map fun r => (r.1,r.2 ++ t) := by
  obtain ⟨htake,hdrop⟩ := run_append (fun c hc => (ht c hc).1) s
  rw [bracketed?,bracketed?,takeDigits,takeDigits,htake,hdrop]
  cases digitValues (s.takeWhile isDecimal) with
  | nil => rfl
  | cons d ds =>
      cases hs : s.dropWhile isDecimal with
      | nil =>
          cases t with
          | nil => rfl
          | cons c rest =>
              have hc : c ≠ ']' := (ht c rfl).2
              simp [hc]
      | cons c left => by_cases hc : c = ']' <;> simp [hc]

/-- By induction on the scan: a point parts what is read before it from what is read behind
it. -/
theorem tokens_append_point (s t : List Char) :
    tokens (s ++ '.' :: t) = tokens s ++ tokens t := by
  have hbracket : ∀ s, bracketed? (s ++ '.' :: t) =
      (bracketed? s).map fun r => (r.1,r.2 ++ '.' :: t) := by
    refine bracketed?_append ?_
    rintro c hc
    cases hc
    decide
  induction s using tokens.induct with
  | case1 => rw [List.nil_append,tokens_point,tokens,List.nil_append]
  | case2 rest ds left h ih =>
      rw [tokens_bracket h,List.cons_append,tokens_bracket (by rw [hbracket,h]; rfl),ih]
      rfl
  | case3 rest h ih =>
      rw [tokens_bracket_none h,List.cons_append,tokens_bracket_none (by rw [hbracket,h]; rfl),ih]
  | case4 c rest hne hc ih =>
      rw [List.cons_append,tokens.eq_3 c _ hne,tokens.eq_3 c _ hne,if_pos hc,if_pos hc,ih]
  | case5 c rest hne hc ih =>
      rw [Bool.not_eq_true] at hc
      obtain ⟨htake,hdrop⟩ := run_append (p := fun d => !isSeparator d) (t := '.' :: t)
        (by rintro c hc; cases hc; rfl) rest
      rw [List.cons_append,tokens_name hc,tokens_name hc,htake,hdrop,ih]
      rfl

/-! ## Keys as tokens -/

/-- A key as it is read: a name, or the digits of an index. -/
def written : Key → List Char ⊕ List Nat
  | .name t => .inl t
  | .index n => .inr (digitValues (decimalDigits n))

theorem key?_written {k : Key} (h : k.Writable) : key? (written k) = some k := by
  cases k with
  | name t => rfl
  | index n =>
      have hlength : (digitValues (decimalDigits n)).length = (decimalDigits n).length := by
        rw [digitValues_of_isDigit (isDigit_decimalDigits n),List.length_map]
      have hsize : (decimalDigits n).length ≤ digitLimit := h
      rw [written,key?,hlength,if_pos hsize,ofDigits_decimalDigits]

theorem bracketed?_decimalDigits (n : Nat) (t : List Char) :
    bracketed? (decimalDigits n ++ ']' :: t) = some (digitValues (decimalDigits n),t) := by
  have hdecimal : ∀ c ∈ decimalDigits n, isDecimal c = true := by
    intro c hc
    rw [isDecimal,digitValue?_of_isDigit (isDigit_decimalDigits n c hc)]
    rfl
  obtain ⟨htake,hdrop⟩ := run_of_all (t := ']' :: t) hdecimal
    (by rintro c hc; cases hc; decide)
  obtain ⟨c,rest,hs⟩ := List.exists_cons_of_ne_nil (Nat.toDigits_ne_nil (n := n) (b := 10))
  rw [bracketed?,takeDigits,htake,hdrop,digitValues_of_isDigit (isDigit_decimalDigits n),
    decimalDigits,hs]
  rfl

theorem head?_flatMap_renderKey (ks : List Key) :
    ∀ c ∈ (ks.flatMap renderKey).head?, isSeparator c = true := by
  cases ks with
  | nil => simp
  | cons k rest => cases k <;> simp [renderKey,isSeparator]

/-- By induction on the keys: each is read off by itself. -/
theorem tokens_render {ks : List Key} (h : ∀ k ∈ ks, k.Writable) :
    tokens (ks.flatMap renderKey) = ks.map written := by
  induction ks with
  | nil => rw [List.flatMap_nil,tokens,List.map_nil]
  | cons k rest ih =>
      obtain ⟨hk,hrest⟩ := List.forall_mem_cons.mp h
      rw [List.flatMap_cons,List.map_cons,← ih hrest]
      cases k with
      | index n =>
          have hb := bracketed?_decimalDigits n (rest.flatMap renderKey)
          have hr : renderKey (.index n) ++ rest.flatMap renderKey =
              '[' :: (decimalDigits n ++ ']' :: rest.flatMap renderKey) := by
            simp [renderKey]
          rw [hr]
          exact tokens_bracket hb
      | name t =>
          obtain ⟨hne,hplain⟩ := hk
          obtain ⟨c,cs,rfl⟩ := List.exists_cons_of_ne_nil hne
          obtain ⟨hc,hcs⟩ := List.forall_mem_cons.mp hplain
          have hall : ∀ d ∈ cs, (!isSeparator d) = true := by
            intro d hd
            rw [hcs d hd]
            rfl
          obtain ⟨htake,hdrop⟩ := run_of_all (t := rest.flatMap renderKey) hall
            (by intro d hd; rw [head?_flatMap_renderKey rest d hd]; rfl)
          rw [renderKey,List.cons_append,tokens_point,List.cons_append,tokens_name hc,htake,hdrop]
          rfl

/-! ## Tokens as keys -/

/-- What every token is: a name without separators, or digits. -/
def Sound : List Char ⊕ List Nat → Prop
  | .inl t => t ≠ [] ∧ ∀ c ∈ t, isSeparator c = false
  | .inr ds => ds ≠ [] ∧ ∀ d ∈ ds, d < 10

theorem sound_of_bracketed? {s left : List Char} {ds : List Nat}
    (h : bracketed? s = some (ds,left)) : Sound (.inr ds) := by
  have hdigits : ∀ d ∈ digitValues (s.takeWhile isDecimal), d < 10 := by
    intro d hd
    obtain ⟨c,-,hc⟩ := List.mem_filterMap.mp hd
    exact lt_of_digitValue? hc
  rw [bracketed?,takeDigits] at h
  split at h
  · cases h
  · rename_i hne heq
    cases h
    obtain ⟨hds,-⟩ := Prod.mk.inj heq
    rw [hds] at hdigits
    exact ⟨hne,hdigits⟩
  · cases h

/-- By induction on the scan. -/
theorem sound_tokens (s : List Char) : ∀ t ∈ tokens s, Sound t := by
  induction s using tokens.induct with
  | case1 => simp [tokens]
  | case2 rest ds left h ih =>
      rw [tokens_bracket h,List.forall_mem_cons]
      exact ⟨sound_of_bracketed? h,ih⟩
  | case3 rest h ih =>
      rw [tokens_bracket_none h]
      exact ih
  | case4 c rest hne hc ih =>
      rw [tokens.eq_3 c _ hne,if_pos hc]
      exact ih
  | case5 c rest hne hc ih =>
      rw [Bool.not_eq_true] at hc
      rw [tokens_name hc,List.forall_mem_cons]
      refine ⟨⟨List.cons_ne_nil _ _,List.forall_mem_cons.mpr ⟨hc,?_⟩⟩,ih⟩
      intro d hd
      simpa using List.mem_takeWhile_imp hd

theorem writable_of_key? {t : List Char ⊕ List Nat} {k : Key} (ht : Sound t)
    (h : key? t = some k) : k.Writable := by
  cases t with
  | inl s =>
      cases h
      exact ht
  | inr ds =>
      obtain ⟨hne,hdigits⟩ := ht
      rw [key?] at h
      split at h
      · rename_i hlimit
        cases h
        -- Leading zeros are not written again, so there are no more digits than were read.
        have hlength : (decimalDigits (ofDigits ds)).length ≤ ds.length :=
          Nat.toDigits_length 10 _ _ (List.length_pos_iff.mpr hne) (ofDigits_lt hdigits)
        exact Nat.le_trans hlength hlimit
      · cases h

theorem mapM_key?_written {ks : List Key} (h : ∀ k ∈ ks, k.Writable) :
    (ks.map written).mapM key? = some ks := by
  induction ks with
  | nil => rfl
  | cons k rest ih =>
      obtain ⟨hk,hrest⟩ := List.forall_mem_cons.mp h
      rw [List.map_cons,List.mapM_cons,key?_written hk,ih hrest]
      rfl

theorem writable_of_mapM_key? {ts : List (List Char ⊕ List Nat)} {ks : List Key}
    (ht : ∀ t ∈ ts, Sound t) (h : ts.mapM key? = some ks) : ∀ k ∈ ks, k.Writable := by
  induction ts generalizing ks with
  | nil =>
      cases h
      simp
  | cons t rest ih =>
      obtain ⟨ht,hrest⟩ := List.forall_mem_cons.mp ht
      rw [List.mapM_cons] at h
      obtain ⟨k,hk,h⟩ := Option.bind_eq_some_iff.mp h
      obtain ⟨ls,hls,h⟩ := Option.bind_eq_some_iff.mp h
      cases h
      exact List.forall_mem_cons.mpr ⟨writable_of_key? ht hk,ih hrest hls⟩

/-! ## Paths -/

variable {p q : String} {v w default : Value} {ks : List Key}

theorem keys?_render (h : ∀ k ∈ ks, k.Writable) : keys? (render ks) = some ks := by
  rw [keys?,render,String.toList_ofList,tokens_render h,mapM_key?_written h]

theorem writable_of_keys? (h : keys? p = some ks) : ∀ k ∈ ks, k.Writable :=
  writable_of_mapM_key? (sound_tokens p.toList) h

theorem keys?_append_point (p q : String) :
    keys? (p ++ "." ++ q) = (keys? p).bind fun ks => (keys? q).map (ks ++ ·) := by
  have hlist : (p ++ "." ++ q).toList = p.toList ++ '.' :: q.toList := by
    simp
  rw [keys?,keys?,keys?,hlist,tokens_append_point,List.mapM_append]
  cases (tokens p.toList).mapM key? with
  | none => rfl
  | some ks => cases (tokens q.toList).mapM key? <;> rfl

/-- A reading at two paths in one goes on with the second where the first one leads. -/
theorem read_append_of_resolves (h : Resolves p v w) (q : String) (default : Value) :
    read (p ++ "." ++ q) v default = read q w default := by
  obtain ⟨ks,hk,hw⟩ := h
  rw [read,read,keys?_append_point,hk,Option.bind_some]
  cases keys? q with
  | none => rfl
  | some ls =>
      dsimp only [Option.map_some]
      rw [Value.get?_append,Value.get?_eq_some_iff.mpr hw]
      rfl

theorem read_append_of_lacks (h : Lacks p v) (hq : (keys? q).isSome) (default : Value) :
    read (p ++ "." ++ q) v default = read p v default := by
  obtain ⟨ks,hk,hm⟩ := h
  obtain ⟨ls,hl⟩ := Option.isSome_iff_exists.mp hq
  have hkeys : keys? (p ++ "." ++ q) = some (ks ++ ls) := by
    rw [keys?_append_point,hk,hl]
    rfl
  rw [read_of_keys hkeys,read_of_keys hk,Value.get?_append]
  cases hg : v.get? ks with
  | error f => rfl
  | ok r =>
      cases r with
      | none => rfl
      | some u => exact (Value.misses_iff.mp hm u (Value.get?_eq_some_iff.mp hg)).elim

/-- The laws of paths. The keys that are read back from what they are written as are those
that can be written, and all that are read can be. A point joins two paths: the keys of both
are read, and a reading goes on with the second where the first one leads, or else comes to
the default, unless it fails as the parts do. -/
theorem path_laws (p q : String) (ks : List Key) (v default : Value) :
    (keys? (render ks) = some ks ↔ ∀ k ∈ ks, k.Writable) ∧
      (keys? p).bind (fun ls => keys? (render ls)) = keys? p ∧
      keys? (p ++ "." ++ q) = (keys? p).bind (fun ls => (keys? q).map (ls ++ ·)) ∧
      (∀ w, Resolves p v w → read p v .null = .ok w ∧
        read (p ++ "." ++ q) v default = read q w default) ∧
      (Lacks p v →
        (Followable p v → (keys? q).isSome → read (p ++ "." ++ q) v default = .ok default) ∧
        ∀ w, read (p ++ "." ++ q) v default = .ok w → w = default) := by
  refine ⟨⟨writable_of_keys?,keys?_render⟩,?_,keys?_append_point p q,?_,?_⟩
  · cases hk : keys? p with
    | none => rfl
    | some ls => exact keys?_render (writable_of_keys? hk)
  · exact fun w h => ⟨read_of_resolves h .null,read_append_of_resolves h q default⟩
  · intro h
    constructor
    · intro hf hq
      rw [read_append_of_lacks h hq]
      exact read_of_lacks h hf default
    · intro w hw
      have hq : (keys? q).isSome := by
        cases hl : keys? q with
        | some ls => rfl
        | none =>
            have hnone : keys? (p ++ "." ++ q) = none := by
              rw [keys?_append_point,hl]
              cases keys? p <;> rfl
            rw [read,hnone] at hw
            cases hw
      rw [read_append_of_lacks h hq] at hw
      have hf : Followable p v := by
        by_contra hf
        rw [read_of_not_followable hf] at hw
        cases hw
      rw [read_of_lacks h hf] at hw
      cases hw
      rfl

/-- An index is written in brackets; the list has one item, and a second one is missing. -/
theorem path_laws_sku :
    let v : Value := .dict [(.text "items",.list [.dict [(.text "sku",.text "a")]])]
    let ks : List Key := [.name "items".toList,.index 0]
    keys? (render ks) = some ks ∧ read ("items[0]" ++ "." ++ "sku") v .null = .ok (.text "a") ∧
      read ("items[1]" ++ "." ++ "sku") v (.bool false) = .ok (.bool false) := by
  intro v ks
  have hwritable : ∀ k ∈ ks, k.Writable := by
    intro k hk
    simp only [ks,List.mem_cons,List.not_mem_nil,or_false] at hk
    rcases hk with rfl | rfl
    · exact ⟨by simp,by simp [isSeparator]⟩
    · show (decimalDigits 0).length ≤ digitLimit
      decide
  have hresolves : Resolves "items[0]" v (.dict [(.text "sku",.text "a")]) :=
    ⟨ks,by with_unfolding_all rfl,Value.get?_eq_some_iff.mp (by with_unfolding_all rfl)⟩
  obtain ⟨hrender,-,-,hresolved,-⟩ := path_laws "items[0]" "sku" ks v .null
  obtain ⟨-,-,-,-,hlacked⟩ := path_laws "items[1]" "sku" ks v (.bool false)
  have hk : keys? "items[1]" = some [.name "items".toList,.index 1] := by
    with_unfolding_all rfl
  have hnone : v.get? [.name "items".toList,.index 1] = .ok none := by
    with_unfolding_all rfl
  have hlacks : Lacks "items[1]" v := by
    refine ⟨_,hk,Value.misses_iff.mpr ?_⟩
    intro w hw
    rw [Value.get?_eq_some_iff.mpr hw] at hnone
    cases hnone
  have hfollowable : Followable "items[1]" v := by
    refine ⟨keys?_isSome_iff.mp (by rw [hk]; rfl),?_⟩
    intro ls hl hs
    rw [hk] at hl
    cases hl
    rw [Value.get?_eq_error_iff.mpr ⟨rfl,hs⟩] at hnone
    cases hnone
  refine ⟨hrender.mpr hwritable,?_,(hlacked hlacks).1 hfollowable (by with_unfolding_all rfl)⟩
  rw [(hresolved _ hresolves).2]
  with_unfolding_all rfl

end Path
end Vetting
