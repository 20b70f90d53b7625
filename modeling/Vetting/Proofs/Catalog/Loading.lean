import Vetting.Catalog
import Vetting.Proofs.Value.Written

/-!
# How the loading of a catalog ends

A catalog is loaded, or it is refused. The locale is looked for before the data is known to be a
dictionary, so data of another kind is refused only if it can be asked for a text and does not
have it. A number is no collection that could be asked, and a list that has the locale in it is
asked for what stands under a text. What is loaded also has to be written as text. All of this
is so whoever reads the document, as long as it is read as a value or found malformed.
-/
namespace Vetting.Catalog

/-- What the data of a catalog is taken for. -/
def said (v : Value) : Value := if v.truth then v else .dict []

/-- Data that cannot be asked what it has for a locale. -/
def Unaskable (t : String) : Value → Prop
  | .dict _ => False
  | .list xs => .text t ∈ xs
  | .tuple xs => .text t ∈ xs
  | .set xs => .text t ∈ xs
  | .text s => Text.isPart t.toList s.toList = true
  | _ => True

/-- The entries that the data has for a locale, or all of them if there is none. -/
inductive Selects : Option String → Value → List (Value × Value) → Prop
  | all (es : List (Value × Value)) : Selects none (.dict es) es
  | under {t : String} {ls es : List (Value × Value)} :
      (Value.text t).lookup ls = some (.dict es) → Selects (some t) (.dict ls) es

/-- An entry without a text. -/
def Unwritable (e : Value × Value) : Prop := e.1.Unwritable ∨ e.2.Unwritable

/-- The texts of entries under the texts of their keys, laid over other templates. Of entries
whose keys have the same text the last one counts. -/
structure LaidOver (fallback templates : Named Value) (es : List (Value × Value)) : Prop where
  kept : ∀ name, (∀ e ∈ es, e.1.display ≠ .ok name) →
    Named.get? name templates = Named.get? name fallback
  last : ∀ name front e back, es = front ++ e :: back → e.1.display = .ok name →
    (∀ d ∈ back, d.1.display ≠ .ok name) →
      ∃ text, e.2.display = .ok text ∧ Named.get? name templates = some (.text text)

/-- How the loading ends for what is said. -/
inductive Loads (locale : Option String) (fallback : Named Value) (v : Value) :
    Except Failure (Named Value) → Prop
  | unaskable {t : String} : locale = some t → Unaskable t v →
      Loads locale fallback v (.error (.fault .wrongKind))
  | refused {e : Failure} : e.family? = some .catalog → (∀ t, locale = some t → ¬ Unaskable t v) →
      (∀ es, ¬ Selects locale v es) → Loads locale fallback v (.error e)
  | unwritable {es : List (Value × Value)} : Selects locale v es → (∃ e ∈ es, Unwritable e) →
      Loads locale fallback v (.error (.fault .badValue))
  | loaded {es : List (Value × Value)} {ms : Named Value} : Selects locale v es →
      (∀ e ∈ es, ¬ Unwritable e) → LaidOver fallback ms es → Loads locale fallback v (.ok ms)

section
variable {t p s : String} {data v w : Value} {xs : List Value} {es ls : List (Value × Value)}
  {locale : Option String} {fallback ms : Named Value} {files : Named String}

/-! ## Asking for a locale -/

theorem equal_text : (Value.text t).equal w = .ok ((Value.text t).sameKey w) := by
  cases w with
  | _ => simp [Value.sameKey,Value.equal,Except.toOption]

theorem holdsOfOne_text :
    Value.holdsOfOne (Value.text t).equal xs = .ok (xs.any (Value.text t).sameKey) := by
  induction xs with
  | nil => rfl
  | cons x xs ih =>
      rw [Value.holdsOfOne,equal_text,List.any_cons]
      cases (Value.text t).sameKey x with
      | true => rfl
      | false => exact ih

theorem any_sameKey_text : xs.any (Value.text t).sameKey = true ↔ .text t ∈ xs := by
  rw [List.any_eq_true]
  constructor
  · rintro ⟨x,hx,hkey⟩
    rwa [Value.sameKey_text.mp hkey] at hx
  · exact fun h => ⟨_,h,Value.sameKey_text.mpr rfl⟩

theorem under?_of_unaskable (h : Unaskable t data) :
    under? data (.text t) = .error .wrongKind := by
  cases data with
  | dict => exact h.elim
  | list xs =>
      rw [under?,holdsOfOne_text,any_sameKey_text.mpr h]
      rfl
  | tuple xs =>
      rw [under?,holdsOfOne_text,any_sameKey_text.mpr h]
      rfl
  | set xs =>
      rw [under?,any_sameKey_text.mpr h]
      rfl
  | text s => exact if_pos h
  | _ => rfl

theorem under?_of_not_unaskable (h : ¬ Unaskable t data) (hdict : ∀ ls, data ≠ .dict ls) :
    under? data (.text t) = .ok none := by
  cases data with
  | dict ls => exact absurd rfl (hdict ls)
  | list xs =>
      rw [under?,holdsOfOne_text,Bool.eq_false_iff.mpr (mt any_sameKey_text.mp h)]
      rfl
  | tuple xs =>
      rw [under?,holdsOfOne_text,Bool.eq_false_iff.mpr (mt any_sameKey_text.mp h)]
      rfl
  | set xs =>
      rw [under?,Bool.eq_false_iff.mpr (mt any_sameKey_text.mp h)]
      rfl
  | text s => exact if_neg h
  | _ => exact absurd trivial h

/-! ## Writing the entries -/

/-- The template that an entry makes. -/
def template (e : Value × Value) : Except Fault (String × Value) := do
  .ok (← e.1.display,.text (← e.2.display))

theorem template_writes (e : Value × Value) : Value.Writes (Unwritable e) (template e) :=
  (Value.display_writes e.1).bind fun _ _ => (Value.display_writes e.2).bind_ok fun _ => ⟨_,rfl⟩

theorem exists_of_template {e : Value × Value} {m : String × Value} (h : template e = .ok m) :
    e.1.display = .ok m.1 ∧ ∃ text, e.2.display = .ok text ∧ m.2 = .text text := by
  obtain ⟨key,hkey,hrest⟩ := exists_of_bind h
  obtain ⟨text,htext,hm⟩ := exists_of_bind hrest
  cases hm
  exact ⟨hkey,text,htext,rfl⟩

theorem templates_cons (e : Value × Value) (es : List (Value × Value)) :
    templates (e :: es) = (do
      let m ← template e
      let ms ← templates es
      pure (m :: ms)) := List.mapM_cons

theorem templates_writes (es : List (Value × Value)) :
    Value.Writes (∃ e ∈ es, Unwritable e) (templates es) := by
  induction es with
  | nil => exact .ok (by simp)
  | cons e es ih =>
      rw [templates_cons]
      refine Value.Writes.congr ((template_writes e).bind fun _ _ =>
        ih.bind_ok fun _ => ⟨_,rfl⟩) ?_
      simp

/-- Each entry goes over what the ones before it have left. -/
theorem laidOver_of_templates (h : templates es = .ok ms) :
    LaidOver fallback (Named.overlay fallback ms) es := by
  induction es generalizing fallback ms with
  | nil =>
      cases (show Except.ok [] = Except.ok ms from h)
      exact ⟨fun _ _ => rfl,by simp⟩
  | cons e es ih =>
      rw [templates_cons] at h
      obtain ⟨m,htemplate,h⟩ := exists_of_bind h
      obtain ⟨rest,hrest,hms⟩ := exists_of_bind h
      cases hms
      obtain ⟨hkey,text,htext,hm⟩ := exists_of_template htemplate
      have hover := @ih (Named.put m.1 m.2 fallback) rest hrest
      constructor
      · intro name hall
        obtain ⟨he,hes⟩ := List.forall_mem_cons.mp hall
        have hne : name ≠ m.1 := fun hn => he (hn ▸ hkey)
        exact (hover.kept name hes).trans (Named.get?_put_of_ne hne m.2 fallback)
      · intro name front d back hsplit hname hback
        cases front with
        | nil =>
            cases hsplit
            cases hkey.symm.trans hname
            refine ⟨text,htext,?_⟩
            rw [← hm]
            exact (hover.kept _ hback).trans (Named.get?_put_self m.1 m.2 fallback)
        | cons _ front =>
            cases hsplit
            exact hover.last name front d back rfl hname hback

/-! ## Loading -/

/-- Selected entries are written, or one of them cannot be. -/
theorem loads_of_selects (h : Selects locale v es) : Loads locale fallback v (do
    .ok (Named.overlay fallback (← orFail (templates es)))) := by
  have hover := @laidOver_of_templates es fallback
  have hwrites := templates_writes es
  revert hover hwrites
  generalize templates es = result
  rintro hover (hgood | hbad)
  · refine .loaded h (fun e he hbad => hgood ⟨e,he,hbad⟩) (hover rfl)
  · exact .unwritable h hbad

theorem part_text (p : String) (data : Value) : part p (.text t) data = (do
    match ← orFail (under? data (.text t)) with
    | some v => .ok v
    | none => .error (.localeMissing (.text t) p)) := rfl

theorem ofDocument_loads (p : String) (locale : Option String) (fallback : Named Value)
    (v : Value) : Loads locale fallback (said v)
      (ofDocument p (optionText locale) fallback (.ok v)) := by
  rw [ofDocument]
  show Loads locale fallback (said v) (part p (optionText locale) (said v) >>= _)
  generalize said v = data
  cases locale with
  | none =>
      cases data with
      | dict es => exact loads_of_selects (.all es)
      | _ => exact .refused rfl nofun nofun
  | some t =>
      rw [optionText,part_text]
      by_cases hask : Unaskable t data
      · rw [under?_of_unaskable hask]
        exact .unaskable rfl hask
      have hasks : ∀ u, some t = some u → ¬ Unaskable u data := by
        rintro _ ⟨⟩
        exact hask
      by_cases hdict : ∃ ls, data = .dict ls
      · obtain ⟨ls,rfl⟩ := hdict
        have hunder : under? (.dict ls) (.text t) = .ok ((Value.text t).lookup ls) := rfl
        rw [hunder]
        cases hlookup : (Value.text t).lookup ls with
        | none =>
            refine .refused rfl hasks ?_
            rintro es ⟨⟩
            rename_i hes
            cases hlookup.symm.trans hes
        | some w =>
            have hselects : ∀ es, Selects (some t) (.dict ls) es → w = .dict es := by
              rintro es ⟨⟩
              rename_i hes
              cases hlookup.symm.trans hes
              rfl
            cases w with
            | dict es => exact loads_of_selects (.under hlookup)
            | _ => exact .refused rfl hasks fun es hes => nomatch hselects es hes
      · rw [under?_of_not_unaskable hask fun ls hls => hdict ⟨ls,hls⟩]
        refine .refused rfl hasks ?_
        rintro es ⟨⟩
        exact hdict ⟨_,rfl⟩

theorem Selects.eq (h : Selects locale v es) (h' : Selects locale v ls) : es = ls := by
  cases h with
  | all => cases h'; rfl
  | under hlookup =>
      cases h'
      rename_i hother
      cases hlookup.symm.trans hother
      rfl

/-- Data that the loading does not get through. -/
def Trapped (locale : Option String) (v : Value) : Prop :=
  (∃ t, locale = some t ∧ Unaskable t v) ∨ ∃ es, Selects locale v es ∧ ∃ e ∈ es, Unwritable e

theorem Selects.not_trapped (h : Selects locale v es) (hes : ∀ e ∈ es, ¬ Unwritable e) :
    ¬ Trapped locale v := by
  rintro (⟨t,rfl,hask⟩ | ⟨ls,hls,e,he,hbad⟩)
  · cases h
    exact hask
  · rw [← h.eq hls] at he
    exact hes e he hbad

/-- For data that it does not get through the loading ends in a fault. For all other data it is a
refusal, or the templates are there. -/
theorem Loads.settles {r : Except Failure (Named Value)} (h : Loads locale fallback v r) :
    (Trapped locale v ∧ ∃ f, r = .error (.fault f)) ∨
      ¬ Trapped locale v ∧ ((∃ e, r = .error e ∧ e.family? = some .catalog) ∨
        ∃ es ms, Selects locale v es ∧ r = .ok ms ∧ LaidOver fallback ms es) := by
  cases h with
  | unaskable hlocale hask => exact .inl ⟨.inl ⟨_,hlocale,hask⟩,_,rfl⟩
  | refused hfamily hask hnone =>
      refine .inr ⟨?_,.inl ⟨_,rfl,hfamily⟩⟩
      rintro (⟨t,hlocale,hunaskable⟩ | ⟨es,hes,-⟩)
      · exact hask t hlocale hunaskable
      · exact hnone es hes
  | unwritable hselects hbad => exact .inl ⟨.inr ⟨_,hselects,hbad⟩,_,rfl⟩
  | loaded hselects hgood hover =>
      exact .inr ⟨hselects.not_trapped hgood,.inr ⟨_,_,hselects,rfl,hover⟩⟩

/-- A catalog is loaded or refused, unless it is read as data that the loading does not get
through. What it is read as settles how the loading ends. -/
theorem load_settles_iff (read : String → Except Trouble Value) (locale : Option String)
    (fallback : Named Value) (hfile : fileAt? files p = some s)
    (hread : ∀ f, read s ≠ .error (.fault f)) :
    (((∃ e, load read files (.text p) (optionText locale) fallback = .error e ∧
          e.family? = some .catalog) ∨
        ∃ v es ms, read s = .ok v ∧ Selects locale (said v) es ∧
          load read files (.text p) (optionText locale) fallback = .ok ms ∧
            LaidOver fallback ms es) ↔
      ∀ v, read s = .ok v → ¬ Trapped locale (said v)) ∧
    ∀ v, read s = .ok v →
      Loads locale fallback (said v)
        (load read files (.text p) (optionText locale) fallback) := by
  have hload : load read files (.text p) (optionText locale) fallback =
      ofDocument p (optionText locale) fallback (read s) := by
    rw [load,hfile]
  rw [hload]
  cases hdata : read s with
  | error e =>
      cases e with
      | fault f => exact absurd hdata (hread f)
      | malformed =>
          refine ⟨⟨fun _ v hv => ?_,fun _ => .inl ⟨_,rfl,rfl⟩⟩,fun v hv => ?_⟩
          · cases hv
          · cases hv
  | ok v =>
      have hloads := ofDocument_loads p locale fallback v
      refine ⟨⟨fun h w hw => ?_,fun h => ?_⟩,fun w hw => by cases hw; exact hloads⟩
      · cases hw
        rcases hloads.settles with ⟨-,f,hfault⟩ | ⟨hfree,-⟩
        · rcases h with ⟨e,he,hfamily⟩ | ⟨_,_,_,-,-,hok,-⟩
          · cases hfault.symm.trans he
            cases hfamily
          · cases hfault.symm.trans hok
        · exact hfree
      · rcases hloads.settles with ⟨htrapped,-⟩ | ⟨-,hrefused | ⟨es,ms,hes,hms,hover⟩⟩
        · exact absurd htrapped (h v rfl)
        · exact .inl hrefused
        · exact .inr ⟨v,es,ms,rfl,hes,hms,hover⟩

end

/-- A flat catalog of one entry, with a reader for it. -/
theorem load_settles_entry :
    let read : String → Except Trouble Value := fun s =>
      if s = "\x7b\"a\": \"b\"\x7d" then .ok (.dict [(.text "a",.text "b")]) else .error .malformed
    fileAt? [("m","\x7b\"a\": \"b\"\x7d")] "m" = some "\x7b\"a\": \"b\"\x7d" ∧
      (∀ f, read "\x7b\"a\": \"b\"\x7d" ≠ .error (.fault f)) ∧
      Loads none [] (.dict [(.text "a",.text "b")])
        (load read [("m","\x7b\"a\": \"b\"\x7d")] (.text "m") (optionText none) []) := by
  intro read
  have hfile : fileAt? [("m","\x7b\"a\": \"b\"\x7d")] "m" = some "\x7b\"a\": \"b\"\x7d" := rfl
  have hdata : read "\x7b\"a\": \"b\"\x7d" = .ok (.dict [(.text "a",.text "b")]) := if_pos rfl
  have hread : ∀ f, read "\x7b\"a\": \"b\"\x7d" ≠ .error (.fault f) := by
    rw [hdata]
    rintro f ⟨⟩
  exact ⟨hfile,hread,(load_settles_iff read none [] hfile hread).2 _ hdata⟩

/-- A list that has the locale in it is no mapping, but it is not refused. -/
theorem load_list_fault :
    let read : String → Except Trouble Value := fun s =>
      if s = "[\"pt\"]" then .ok (.list [.text "pt"]) else .error .malformed
    read "[\"pt\"]" = .ok (.list [.text "pt"]) ∧
      load read [("messages.yaml","[\"pt\"]")] (.text "messages.yaml")
        (optionText (some "pt")) [] = .error (.fault .wrongKind) := by
  intro read
  have hdata : read "[\"pt\"]" = .ok (.list [.text "pt"]) := if_pos rfl
  have hfile : fileAt? [("messages.yaml","[\"pt\"]")] "messages.yaml" = some "[\"pt\"]" := rfl
  have hask : Unaskable "pt" (.list [.text "pt"]) := List.mem_singleton_self _
  refine ⟨hdata,?_⟩
  rw [load,hfile]
  dsimp only
  rw [hdata]
  show (part "messages.yaml" (.text "pt") (.list [.text "pt"]) >>= _) = _
  rw [part_text,under?_of_unaskable hask]
  rfl

end Vetting.Catalog
