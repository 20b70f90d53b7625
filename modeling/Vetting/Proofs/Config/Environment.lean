import Mathlib.Data.List.Basic
import Mathlib.Tactic.ByContra
import Vetting.Config
import Vetting.Proofs.Text.Case
import Vetting.Reading

/-!
# Settings in the environment

Empty variables say as much as variables that are not set, but for the one that spells a truth
value. What it spells is what arguments of rules spell with the same words, but only as long as no
blanks stand around the word: everything else that arguments allow is refused here.
-/
namespace Vetting
open Text

/-! ## Fields that are put in -/

namespace Named
variable {α : Type} {name : String} {base base' : Named α}

theorem get?_put_congr (h : get? name base = get? name base') (other : String) (a : α) :
    get? name (put other a base) = get? name (put other a base') := by
  by_cases ho : name = other
  · rw [ho,get?_put_self,get?_put_self]
  · rw [get?_put_of_ne ho,get?_put_of_ne ho,h]

/-- What is found under a name depends on what was there under it, and on nothing else. -/
theorem get?_overlay_congr (h : get? name base = get? name base') (extra : Named α) :
    get? name (overlay base extra) = get? name (overlay base' extra) := by
  induction extra generalizing base base' with
  | nil => exact h
  | cons e extra ih => exact ih (get?_put_congr h e.1 e.2)

end Named

namespace Config
variable {env : Named String} {fields : Named Value} {s : String} {b : Bool}

/-- The same values make the same configuration, but for whether it throws early. -/
theorem check_bool (b early : Bool) (file locale level format : Value) :
    check (.bool b) file locale level format =
      (check (.bool early) file locale level format).map ({ · with throwEarly := b }) := by
  dsimp only [check]
  cases orFail (isOneOf levelNames level) with
  | error f => rfl
  | ok known =>
      cases known with
      | false => rfl
      | true =>
          cases orFail (isOneOf formatNames format) with
          | error f => rfl
          | ok known => cases known <;> rfl

theorem check_bool_ne_unspelled (file locale level format : Value) :
    check (.bool b) file locale level format ≠ .error (.throwEarlyUnspelled s) := by
  have horFail : ∀ {r : Except Fault Bool}, orFail r ≠ .error (.throwEarlyUnspelled s) := by
    intro r h
    cases r <;> cases h
  dsimp only [check]
  intro h
  cases hlevel : orFail (isOneOf levelNames level) with
  | error f =>
      rw [hlevel] at h
      cases h
      exact horFail hlevel
  | ok known =>
      rw [hlevel] at h
      cases known with
      | false => cases h
      | true =>
          cases hformat : orFail (isOneOf formatNames format) with
          | error f =>
              rw [hformat] at h
              cases h
              exact horFail hformat
          | ok known =>
              rw [hformat] at h
              cases known <;> cases h

/-- Fields other than whether to throw early leave that one as it is. -/
theorem exists_check (h : ∀ f ∈ fields, f.1 ∈ fieldVariables.map Prod.snd) :
    ∃ file locale level format, ofFields fields = check (.bool false) file locale level format ∧
      ∀ v, ofFields (("throw_early",v) :: fields) = check v file locale level format := by
  have hknown : (fields.any fun f => (Named.get? f.1 defaults).isNone) = false := by
    refine List.any_eq_false.mpr fun f hf => ?_
    have hall : ∀ n ∈ fieldVariables.map Prod.snd,
        ¬ (Named.get? n defaults).isNone = true := by decide
    exact hall _ (h f hf)
  have hne : ∀ f ∈ fields, f.1 ≠ "throw_early" := by
    intro f hf he
    have hall : "throw_early" ∉ fieldVariables.map Prod.snd := by decide
    exact hall (he ▸ h f hf)
  have hsame : ∀ v : Value, ∀ n, n ≠ "throw_early" →
      Named.get? n (Named.overlay (Named.put "throw_early" v defaults) fields) =
        Named.get? n (Named.overlay defaults fields) := fun v n hn =>
    Named.get?_overlay_congr (Named.get?_put_of_ne hn v defaults) fields
  let get (name : String) : Value := (Named.get? name (Named.overlay defaults fields)).getD .null
  refine ⟨get "messages_file",get "locale",get "logging_level",get "logging_format",?_,
    fun v => ?_⟩
  · rw [ofFields,if_neg (by rw [hknown]; exact Bool.false_ne_true)]
    dsimp only
    rw [Named.get?_overlay_of_forall_ne hne]
    rfl
  · rw [ofFields,if_neg (by rw [List.any_cons,hknown]; exact Bool.false_ne_true)]
    have hover : Named.overlay defaults (("throw_early",v) :: fields) =
        Named.overlay (Named.put "throw_early" v defaults) fields := rfl
    dsimp only
    rw [hover,Named.get?_overlay_of_forall_ne hne,Named.get?_put_self,hsame v _ (by decide),
      hsame v _ (by decide),hsame v _ (by decide),hsame v _ (by decide)]
    rfl

/-! ## Variables -/

/-- The variables that are read. -/
def readVariables : List String := throwEarlyVariable :: fieldVariables.map Prod.fst

/-- The fields that the environment gives, other than whether to throw early. -/
def otherFields (env : Named String) : Named Value :=
  fieldVariables.filterMap fun v =>
    ((Named.get? v.1 env).filter fun s => !s.isEmpty).map fun s => (v.2,Value.text s)

theorem mem_otherFields {f : String × Value} (h : f ∈ otherFields env) :
    f.1 ∈ fieldVariables.map Prod.snd := by
  obtain ⟨v,hv,hf⟩ := List.mem_filterMap.mp h
  obtain ⟨s,-,rfl⟩ := Option.map_eq_some_iff.mp hf
  exact List.mem_map_of_mem hv

/-- Without the variable for it, nothing is refused for how it spells a truth value. -/
theorem ofFields_otherFields_ne (env : Named String) (s : String) :
    ofFields (otherFields env) ≠ .error (.throwEarlyUnspelled s) := by
  obtain ⟨_,_,_,_,h,-⟩ := @exists_check (otherFields env) fun _ => mem_otherFields
  rw [h]
  exact check_bool_ne_unspelled _ _ _ _

theorem ofFields_throwEarly (env : Named String) (b : Bool) :
    ofFields (("throw_early",.bool b) :: otherFields env) =
      (ofFields (otherFields env)).map ({ · with throwEarly := b }) := by
  obtain ⟨_,_,_,_,h,hearly⟩ := @exists_check (otherFields env) fun _ => mem_otherFields
  rw [h,hearly]
  exact check_bool b false _ _ _ _

theorem ofEnvironment_of_none (h : Named.get? throwEarlyVariable env = none) :
    ofEnvironment env = ofFields (otherFields env) := by
  rw [ofEnvironment,environmentFields,h]
  rfl

theorem ofEnvironment_of_some (h : Named.get? throwEarlyVariable env = some s) :
    ofEnvironment env = (spelledThrowEarly s).bind fun b =>
      (ofFields (otherFields env)).map ({ · with throwEarly := b }) := by
  rw [ofEnvironment,environmentFields,h]
  dsimp only
  cases spelledThrowEarly s with
  | error f => rfl
  | ok b => exact ofFields_throwEarly env b

/-- Fields are made from variables with something in them. -/
theorem otherFields_put_empty (v : String) (env : Named String) :
    otherFields (Named.put v "" env) = otherFields (Named.erase v env) := by
  refine List.filterMap_congr fun x _ => ?_
  by_cases hx : x.1 = v
  · rw [hx,Named.get?_put_self,Named.get?_erase_self]
    rfl
  · rw [Named.get?_put_of_ne hx,Named.get?_erase_of_ne hx]

theorem otherFields_put_throwEarly (s : String) (env : Named String) :
    otherFields (Named.put throwEarlyVariable s env) =
      otherFields (Named.erase throwEarlyVariable env) := by
  refine List.filterMap_congr fun x hx => ?_
  have hne : x.1 ≠ throwEarlyVariable := by
    have hall : ∀ x ∈ fieldVariables, x.1 ≠ throwEarlyVariable := by decide
    exact hall x hx
  rw [Named.get?_put_of_ne hne,Named.get?_erase_of_ne hne]

/-- What the variable spells is put in the place of what is the case without it. -/
theorem ofEnvironment_put_throwEarly (s : String) (env : Named String) :
    ofEnvironment (Named.put throwEarlyVariable s env) = (spelledThrowEarly s).bind fun b =>
      (ofEnvironment (Named.erase throwEarlyVariable env)).map ({ · with throwEarly := b }) := by
  rw [ofEnvironment_of_some (Named.get?_put_self _ _ _),otherFields_put_throwEarly,
    ofEnvironment_of_none (Named.get?_erase_self _ _)]

theorem ofEnvironment_put_empty {v : String} (hv : v ≠ throwEarlyVariable) (env : Named String) :
    ofEnvironment (Named.put v "" env) = ofEnvironment (Named.erase v env) := by
  cases h : Named.get? throwEarlyVariable env with
  | none =>
      rw [ofEnvironment_of_none ((Named.get?_put_of_ne (Ne.symm hv) _ _).trans h),
        ofEnvironment_of_none ((Named.get?_erase_of_ne (Ne.symm hv) _).trans h),
        otherFields_put_empty]
  | some s =>
      rw [ofEnvironment_of_some ((Named.get?_put_of_ne (Ne.symm hv) _ _).trans h),
        ofEnvironment_of_some ((Named.get?_erase_of_ne (Ne.symm hv) _).trans h),
        otherFields_put_empty]

/-! ## Words for truth values -/

theorem trim_eq_self {s : List Char} (h : ∀ c ∈ s, isBlank c = false) : trim s = s := by
  have hstart : trimStart s = s := by
    cases s with
    | nil => rfl
    | cons c s => exact List.dropWhile_cons_of_neg (by rw [h c List.mem_cons_self]; decide)
  have hend : s.reverse.dropWhile isBlank = s.reverse := by
    cases hs : s.reverse with
    | nil => rfl
    | cons c t =>
        have hc : c ∈ s := List.mem_reverse.mp (hs ▸ List.mem_cons_self)
        exact List.dropWhile_cons_of_neg (by rw [h c hc]; decide)
  rw [trim,hstart,trimEnd,hend,List.reverse_reverse]

/-- The words that arguments spell truth values with are read from a variable, but for the empty
one. -/
theorem spelledThrowEarly_of_trim (ht : trim s.toList = s.toList) (hs : s.toList ≠ [])
    (hb : Value.spelledBool s = some b) : spelledThrowEarly s = .ok b := by
  have hne : String.ofList (lower s.toList) ≠ "" := by
    rwa [ne_eq,← String.toList_eq_nil_iff,String.toList_ofList,lower_eq_nil_iff]
  rw [Value.spelledBool,ht] at hb
  rw [spelledThrowEarly]
  generalize String.ofList (lower s.toList) = t at hne hb ⊢
  split at hb
  · rename_i hyes
    cases hb
    exact if_pos hyes
  · rename_i hyes
    split at hb
    · rename_i hno
      cases hb
      have hword : ["false","0","no","off"].contains t = true := by
        simpa [Value.noTexts,hne] using hno
      exact (if_neg hyes).trans (if_pos hword)
    · cases hb

/-- A text with a blank anywhere in it is no word for a truth value. -/
theorem spelledThrowEarly_of_isBlank {c : Char} (hc : c ∈ s.toList) (hb : isBlank c = true) :
    spelledThrowEarly s = .error (.throwEarlyUnspelled s) := by
  obtain ⟨d,hd,hother⟩ := exists_mem_lower_of_isBlank hb hc
  have hnone : ∀ words : List String, (words.all fun w => w.toList.all fun d =>
      !decide (isBlank d = true ∨ 128 ≤ d.toNat ∨ d = 'i' ∨ d = 'k')) = true →
      words.contains (String.ofList (lower s.toList)) = false := by
    intro words hwords
    rw [← Bool.not_eq_true,List.contains_iff_mem]
    intro hmem
    have hword := List.all_eq_true.mp hwords _ hmem
    rw [String.toList_ofList] at hword
    have hplain := List.all_eq_true.mp hword d hd
    rw [decide_eq_true hother] at hplain
    cases hplain
  rw [spelledThrowEarly,hnone ["true","1","yes","on"] (by decide),
    hnone ["false","0","no","off"] (by decide)]
  rfl

theorem spelledThrowEarly_of_ne_trim (ht : trim s.toList ≠ s.toList) :
    spelledThrowEarly s = .error (.throwEarlyUnspelled s) := by
  by_contra h
  refine ht (trim_eq_self fun c hc => ?_)
  rw [← Bool.not_eq_true]
  exact fun hb => h (spelledThrowEarly_of_isBlank hc hb)

/-- Setting a variable to nothing is not setting it, for all variables but the one that spells a
truth value. That one reads the words that arguments spell truth values with, except where there are
blanks around them; such a text, and the empty one, are refused. -/
theorem ofEnvironment_lenient_iff (env : Named String) :
    (∀ v ∈ readVariables, ofEnvironment (Named.put v "" env) = ofEnvironment (Named.erase v env) ↔
      v ≠ throwEarlyVariable) ∧
    (∀ s b, Value.spelledBool s = some b → trim s.toList ≠ [] →
      (ofEnvironment (Named.put throwEarlyVariable s env) =
          (ofEnvironment (Named.erase throwEarlyVariable env)).map ({ · with throwEarly := b }) ↔
        trim s.toList = s.toList)) ∧
    ∀ s, s = "" ∨ trim s.toList ≠ s.toList →
      ofEnvironment (Named.put throwEarlyVariable s env) = .error (.throwEarlyUnspelled s) := by
  have hrefused : ∀ s, s = "" ∨ trim s.toList ≠ s.toList →
      ofEnvironment (Named.put throwEarlyVariable s env) = .error (.throwEarlyUnspelled s) := by
    intro s hs
    have hspelled : spelledThrowEarly s = .error (.throwEarlyUnspelled s) := by
      rcases hs with rfl | ht
      · rfl
      · exact spelledThrowEarly_of_ne_trim ht
    rw [ofEnvironment_put_throwEarly,hspelled]
    rfl
  have hunset : ∀ s, ofEnvironment (Named.erase throwEarlyVariable env) ≠
      .error (.throwEarlyUnspelled s) := by
    intro s
    rw [ofEnvironment_of_none (Named.get?_erase_self _ _)]
    exact ofFields_otherFields_ne _ s
  refine ⟨fun v _ => ⟨?_,fun hv => ofEnvironment_put_empty hv env⟩,fun s b hb hblank => ⟨?_,?_⟩,
    hrefused⟩
  · rintro h rfl
    rw [hrefused "" (Or.inl rfl)] at h
    exact hunset "" h.symm
  · intro h
    by_contra ht
    rw [hrefused s (Or.inr ht)] at h
    cases hother : ofEnvironment (Named.erase throwEarlyVariable env) with
    | ok c =>
        rw [hother] at h
        cases h
    | error f =>
        rw [hother] at h
        cases h
        exact hunset s hother
  · intro ht
    rw [ofEnvironment_put_throwEarly,spelledThrowEarly_of_trim ht (ht ▸ hblank) hb]
    rfl

theorem ofEnvironment_lenient_iff_locale :
    let env : Named String := [("ASSERTATION_LOCALE","pt")]
    throwEarlyVariable ∈ readVariables ∧
    ofEnvironment (Named.put throwEarlyVariable "" env) ≠
      ofEnvironment (Named.erase throwEarlyVariable env) ∧
    Value.spelledBool "Yes" = some true ∧ trim "Yes".toList ≠ [] ∧
    trim "Yes".toList = "Yes".toList ∧
    ofEnvironment (Named.put throwEarlyVariable "Yes" env) =
      (ofEnvironment (Named.erase throwEarlyVariable env)).map ({ · with throwEarly := true }) ∧
    trim " on ".toList ≠ " on ".toList ∧
    ofEnvironment (Named.put throwEarlyVariable " on " env) =
      .error (.throwEarlyUnspelled " on ") := by
  intro env
  obtain ⟨hempty,hspelled,hrefused⟩ := ofEnvironment_lenient_iff env
  have hmem : throwEarlyVariable ∈ readVariables := List.mem_cons_self
  have hyes : Value.spelledBool "Yes" = some true := by decide
  have hblank : trim "Yes".toList ≠ [] := by decide
  have htrim : trim "Yes".toList = "Yes".toList := by decide
  have hpadded : trim " on ".toList ≠ " on ".toList := by decide
  exact ⟨hmem,fun h => (hempty _ hmem).mp h rfl,hyes,hblank,htrim,
    (hspelled "Yes" true hyes hblank).mpr htrim,hpadded,hrefused " on " (Or.inr hpadded)⟩

/-- The empty text is not the same as none, and a word with blanks around it is not read. -/
theorem ofEnvironment_not_lenient :
    ¬ (∀ env, ∀ v ∈ readVariables,
      ofEnvironment (Named.put v "" env) = ofEnvironment (Named.erase v env)) ∧
    ¬ (∀ env s b, Value.spelledBool s = some b → trim s.toList ≠ [] →
      ofEnvironment (Named.put throwEarlyVariable s env) =
        (ofEnvironment (Named.erase throwEarlyVariable env)).map
          ({ · with throwEarly := b })) := by
  have hdefault : ofEnvironment [] =
      .ok ⟨false,.null,.null,.text "warning",.text "text"⟩ := by rfl
  constructor
  · intro h
    have hempty := h [] throwEarlyVariable List.mem_cons_self
    have hrefused : ofEnvironment [(throwEarlyVariable,"")] =
        .error (.throwEarlyUnspelled "") := rfl
    exact nomatch hrefused.symm.trans (hempty.trans hdefault)
  · intro h
    have hpadded := h [] " true " true (by decide) (by decide)
    have hrefused : ofEnvironment [(throwEarlyVariable," true ")] =
        .error (.throwEarlyUnspelled " true ") := rfl
    have hsome := hrefused.symm.trans (hpadded.trans (congrArg (Except.map _) hdefault))
    exact nomatch hsome

end Config

end Vetting
