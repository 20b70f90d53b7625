import Mathlib.Data.List.Forall2
import Vetting.Proofs.Report.Redaction

/-!
# Contexts that are shown to others

A redacted context has the same names as before. Entries whose names promise a secret are filtered
whatever they hold, and texts are redacted. What lies deeper in a list or a dictionary is shown as
it is, and with it every secret in there. Redacting a second time does not help: it changes a text
only where the first time has made an address of what was left of another one.
-/
namespace Vetting
open Pattern

/-- A text lies somewhere in a value, be it as the name of an entry in it. -/
inductive Value.Bears : Value → String → Prop
  | text (s : String) : Bears (.text s) s
  | list {xs : List Value} {x : Value} {s : String} (hx : x ∈ xs) (h : Bears x s) :
      Bears (.list xs) s
  | tuple {xs : List Value} {x : Value} {s : String} (hx : x ∈ xs) (h : Bears x s) :
      Bears (.tuple xs) s
  | set {xs : List Value} {x : Value} {s : String} (hx : x ∈ xs) (h : Bears x s) :
      Bears (.set xs) s
  | name {es : List (Value × Value)} {e : Value × Value} {s : String} (he : e ∈ es)
      (h : Bears e.1 s) : Bears (.dict es) s
  | entry {es : List (Value × Value)} {e : Value × Value} {s : String} (he : e ∈ es)
      (h : Bears e.2 s) : Bears (.dict es) s

namespace Report

/-- The name of an entry promises a secret. -/
def PromisesSecret (name : Value) : Prop := isSecretName name = .ok true

/-- What an entry holds shows no secret once it has been redacted. -/
def Conceals : Value → Prop
  | .text s => ¬ Relapses s
  | v => ∀ s, v.Bears s → ¬ ShowsSecret s

/-- An entry is shown under its name, as a mask if the name promises a secret, and as it is if there
is nothing to hide in it. -/
structure ShownAs (e shown : Value × Value) : Prop where
  name : shown.1 = e.1
  masked : PromisesSecret e.1 → shown.2 = .text filtered
  unchanged : ¬ PromisesSecret e.1 → (∀ s, e.2 = .text s → ¬ ShowsSecret s) → shown = e

/-! ## One entry -/

section
variable {v : Value} {s t : String}

theorem bears_text_iff : (Value.text s).Bears t ↔ t = s := by
  constructor
  · rintro ⟨⟩
    rfl
  · rintro rfl
    exact .text t

theorem not_showsSecret_filtered : ¬ ShowsSecret filtered := by
  have hnone : ∀ nodes ∈ secretRows, Regex.occursIn ⟨nodes,0,[]⟩ filtered.toList = false := by
    decide +kernel
  rintro ⟨p,hp,hoccurs⟩
  rw [secretPatterns_eq] at hp
  obtain ⟨nodes,hmem,rfl⟩ := List.mem_map.mp hp
  exact absurd ((hnone nodes hmem).symm.trans hoccurs) Bool.false_ne_true

theorem redactValue_eq_self (h : ∀ s, v = .text s → ¬ ShowsSecret s) : redactValue v = v := by
  cases v with
  | text s => rw [redactValue,redact_eq_self (h s rfl)]
  | _ => rfl

theorem conceals_iff : (∀ s, (redactValue v).Bears s → ¬ ShowsSecret s) ↔ Conceals v := by
  cases v with
  | text s =>
      simp only [redactValue,bears_text_iff,forall_eq,Conceals]
      exact not_congr showsSecret_redact_iff
  | _ => exact Iff.rfl

theorem redactValue_redactValue_iff : redactValue (redactValue v) = redactValue v ↔
    ∀ s, v = .text s → ¬ Relapses s := by
  cases v with
  | text s =>
      simp only [redactValue,Value.text.injEq,forall_eq']
      exact redact_redact_iff
  | _ =>
      refine iff_of_true rfl fun s hs => ?_
      cases hs

end

section
variable {e : Value × Value}

theorem redactEntry_of_promises (h : PromisesSecret e.1) :
    redactEntry e = .ok (e.1,.text filtered) := by
  rw [redactEntry,h]
  rfl

theorem redactEntry_of_not_promises (hn : ∃ n, e.1 = .text n) (h : ¬ PromisesSecret e.1) :
    redactEntry e = .ok (e.1,redactValue e.2) := by
  obtain ⟨n,hn⟩ := hn
  rw [PromisesSecret,hn,isSecretName] at h
  rw [redactEntry,hn,isSecretName,Bool.eq_false_iff.mpr fun hb => h (congrArg _ hb)]
  rfl

/-- An entry under a text is shown. Nothing in it looks like a secret, and redacting it again
changes nothing, if its name promises a secret or its value is well concealed. -/
theorem exists_redactEntry (hn : ∃ n, e.1 = .text n) :
    ∃ shown, redactEntry e = .ok shown ∧ ShownAs e shown ∧
      ((∀ s, shown.2.Bears s → ¬ ShowsSecret s) ↔ PromisesSecret e.1 ∨ Conceals e.2) ∧
      (redactEntry shown = .ok shown ↔ PromisesSecret e.1 ∨ ∀ s, e.2 = .text s → ¬ Relapses s) := by
  by_cases h : PromisesSecret e.1
  · refine ⟨_,redactEntry_of_promises h,⟨rfl,fun _ => rfl,absurd h⟩,?_,?_⟩
    · refine iff_of_true (fun s hs => ?_) (Or.inl h)
      rw [bears_text_iff.mp hs]
      exact not_showsSecret_filtered
    · exact iff_of_true (redactEntry_of_promises (e := (e.1,.text filtered)) h) (Or.inl h)
  · refine ⟨_,redactEntry_of_not_promises hn h,⟨rfl,fun hp => absurd hp h,fun _ hs => ?_⟩,?_,?_⟩
    · rw [redactValue_eq_self hs]
    · rw [or_iff_right h]
      exact conceals_iff
    · rw [or_iff_right h,redactEntry_of_not_promises (e := (e.1,redactValue e.2)) hn h,
        ← redactValue_redactValue_iff]
      simp

end

/-! ## A whole context -/

section
variable {es shown : Entries}

theorem exists_mapM {P : Value × Value → Value × Value → Prop}
    (h : ∀ e ∈ es, ∃ shown, redactEntry e = .ok shown ∧ P e shown) :
    ∃ shown, es.mapM redactEntry = .ok shown ∧ List.Forall₂ P es shown := by
  induction es with
  | nil => exact ⟨[],rfl,.nil⟩
  | cons e es ih =>
      obtain ⟨he,hes⟩ := List.forall_mem_cons.mp h
      obtain ⟨first,hfirst,hP⟩ := he
      obtain ⟨rest,hrest,hall⟩ := ih hes
      refine ⟨first :: rest,?_,.cons hP hall⟩
      rw [List.mapM_cons,hfirst,hrest]
      rfl

theorem mapM_eq_self_iff :
    es.mapM redactEntry = .ok es ↔ ∀ e ∈ es, redactEntry e = .ok e := by
  induction es with
  | nil => exact iff_of_true rfl nofun
  | cons e es ih =>
      rw [List.mapM_cons,List.forall_mem_cons,← ih]
      cases redactEntry e with
      | error f => exact iff_of_false nofun fun h => nomatch h.1
      | ok first =>
          cases es.mapM redactEntry with
          | error f => exact iff_of_false nofun fun h => nomatch h.2
          | ok rest => simp [Bind.bind,Except.bind,pure,Except.pure]

/-- What holds of entries one by one holds of all that is shown. -/
theorem forall_shown_iff {P Q : Value × Value → Prop}
    (h : List.Forall₂ (fun e shown => P shown ↔ Q e) es shown) :
    (∀ e ∈ shown, P e) ↔ ∀ e ∈ es, Q e := by
  induction h with
  | nil => exact iff_of_true nofun nofun
  | cons h _ ih => rw [List.forall_mem_cons,List.forall_mem_cons,h,ih]

end

/-- A context with texts for names can be shown. Entries whose names promise a secret become masks
and entries with nothing to hide stay as they are. Nothing in what is shown looks like a secret
exactly where all other texts do not relapse and nothing looks like a secret deeper in a value, and
redacting it again changes nothing exactly where no other text relapses, for which it has to have
slashes twice in a row. -/
theorem redacted_conceals_iff (r : Report) (h : ∀ e ∈ r.context, ∃ n, e.1 = .text n) :
    ∃ shown, r.redacted = .ok shown ∧ List.Forall₂ ShownAs r.context shown ∧
      ((∀ e ∈ shown, ∀ s, e.2.Bears s → ¬ ShowsSecret s) ↔
        ∀ e ∈ r.context, PromisesSecret e.1 ∨ Conceals e.2) ∧
      (redacted { r with context := shown } = .ok shown ↔
        ∀ e ∈ r.context, PromisesSecret e.1 ∨ ∀ s, e.2 = .text s → ¬ Relapses s) ∧
      ∀ s, Relapses s → "://://".toList <:+: s.toList := by
  obtain ⟨shown,hshown,hall⟩ := exists_mapM fun e he => exists_redactEntry (h e he)
  refine ⟨shown,hshown,hall.imp fun _ _ h => h.1,?_,?_,fun s hs => ?_⟩
  · exact forall_shown_iff (P := fun e => ∀ s, e.2.Bears s → ¬ ShowsSecret s)
      (hall.imp fun _ _ h => h.2.1)
  · exact mapM_eq_self_iff.trans (forall_shown_iff (hall.imp fun _ _ h => h.2.2))
  · exact hs.slashes_infix

/-! ## A context that shows its secrets -/

/-- An address that is left over from another one. -/
def slashedNote : String := "db ://://a:b@:c@"

theorem relapses_slashedNote : Relapses slashedNote := by
  refine ⟨"db ".toList,":c@".toList,?_,filtered.toList,['c'],[],?_,?_⟩
  · rw [withoutAddresses_eq]
    decide +kernel
  · decide
  · decide

theorem showsSecret_password : ShowsSecret "password=x" := by
  refine ⟨⟨passwordNodes,0,[]⟩,?_,by decide +kernel⟩
  rw [secretPatterns_eq]
  exact List.mem_cons_self

theorem not_promisesSecret_note : ¬ PromisesSecret (.text "note") := by
  rw [PromisesSecret,isSecretName,Except.ok.injEq]
  decide

theorem not_promisesSecret_errors : ¬ PromisesSecret errorsKey := by
  rw [errorsKey,PromisesSecret,isSecretName,Except.ok.injEq]
  decide

/-- The errors of a chain whose only message shows a password. -/
def passwordErrors : Entries := [(.text "general",.list [.text "password=x"])]

theorem bears_passwordErrors : (Value.dict passwordErrors).Bears "password=x" :=
  .entry List.mem_cons_self (.list List.mem_cons_self (.text _))

theorem redacted_conceals_iff_boom :
    let r := ofErrors "boom" passwordErrors [(.text "note",.text slashedNote)] none
    (∀ e ∈ r.context, ∃ n, e.1 = .text n) ∧
    ∃ shown, r.redacted = .ok shown ∧ List.Forall₂ ShownAs r.context shown ∧
      ¬ (∀ e ∈ shown, ∀ s, e.2.Bears s → ¬ ShowsSecret s) ∧
      redacted { r with context := shown } ≠ .ok shown := by
  intro r
  have hcontext : r.context =
      [(.text "note",.text slashedNote),(errorsKey,.dict passwordErrors)] := by
    have hne : ¬ Value.sameKey errorsKey (.text "note") = true := by
      rw [errorsKey,Value.sameKey_text,Value.text.injEq]
      decide
    show Value.insert errorsKey _ [(.text "note",.text slashedNote)] = _
    rw [Value.insert,if_neg hne]
    rfl
  have hnames : ∀ e ∈ r.context, ∃ n, e.1 = .text n := by
    rw [hcontext]
    simp [errorsKey]
  obtain ⟨shown,hshown,hall,hsecret,hagain,-⟩ := redacted_conceals_iff r hnames
  refine ⟨hnames,shown,hshown,hall,fun h => ?_,fun h => ?_⟩
  · rw [hsecret,hcontext] at h
    rcases h (errorsKey,.dict passwordErrors) (by simp) with hp | hc
    · exact not_promisesSecret_errors hp
    · exact hc _ bears_passwordErrors showsSecret_password
  · rw [hagain,hcontext] at h
    rcases h (.text "note",.text slashedNote) (by simp) with hp | hc
    · exact not_promisesSecret_note hp
    · exact hc _ rfl relapses_slashedNote

/-- The errors of a chain are shown with a password in them, and of a text an address is left that
is cut out only the second time. -/
theorem redacted_not_conceals :
    ¬ (∀ r : Report, (∀ e ∈ r.context, ∃ n, e.1 = .text n) → ∃ shown, r.redacted = .ok shown ∧
      ∀ e ∈ shown, ∀ s, e.2.Bears s → ¬ ShowsSecret s) ∧
    ¬ (∀ r : Report, (∀ e ∈ r.context, ∃ n, e.1 = .text n) → ∃ shown, r.redacted = .ok shown ∧
      redacted { r with context := shown } = .ok shown) := by
  constructor
  · intro h
    obtain ⟨shown,hshown,hnone⟩ := h (ofErrors "boom" passwordErrors [] none) (by
      intro e he
      cases List.mem_singleton.mp he
      exact ⟨_,rfl⟩)
    have herrors : redacted (ofErrors "boom" passwordErrors [] none) =
        .ok [(errorsKey,.dict passwordErrors)] := by
      have hentry := redactEntry_of_not_promises (e := (errorsKey,.dict passwordErrors))
        ⟨_,rfl⟩ not_promisesSecret_errors
      show [(errorsKey,Value.dict passwordErrors)].mapM redactEntry = _
      rw [List.mapM_cons,hentry]
      rfl
    cases herrors.symm.trans hshown
    exact hnone _ List.mem_cons_self _ bears_passwordErrors showsSecret_password
  · intro h
    obtain ⟨shown,hshown,hsame⟩ := h ⟨.general,"",[(.text "note",.text slashedNote)],none⟩ (by
      intro e he
      cases List.mem_singleton.mp he
      exact ⟨_,rfl⟩)
    obtain ⟨first,hfirst,-,-,hagain⟩ :=
      exists_redactEntry (e := (.text "note",.text slashedNote)) ⟨_,rfl⟩
    have hnote : redacted ⟨.general,"",[(.text "note",.text slashedNote)],none⟩ =
        .ok [first] := by
      show [(Value.text "note",Value.text slashedNote)].mapM redactEntry = _
      rw [List.mapM_cons,hfirst]
      rfl
    cases hnote.symm.trans hshown
    rcases hagain.mp (mapM_eq_self_iff.mp hsame first List.mem_cons_self) with hp | hc
    · exact not_promisesSecret_note hp
    · exact hc _ rfl relapses_slashedNote

end Report
end Vetting
