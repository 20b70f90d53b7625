import Mathlib.Data.List.DropRight
import Vetting.Expression

/-!
# Expressions that are read as they were written

Of all lists of alternatives, exactly those come back from being written that have no empty
alternative, no blank one, no name with blanks around it, and no separator in a name or an
argument. Whatever is read is such a list, so that reading, writing and reading again gives
what the first reading gave.
-/
namespace Vetting
open Text

namespace Text

/-- A text that begins as a trimmed one does has no blanks before it. -/
theorem trimStart_of_prefix {s t : List Char} (h : t <+: trimStart s) : trimStart t = t := by
  cases t with
  | nil => rfl
  | cons c t =>
      obtain ⟨rest,hs⟩ := h
      have hstart : trimStart (c :: (t ++ rest)) = c :: (t ++ rest) := by
        change c :: (t ++ rest) = trimStart s at hs
        rw [hs]
        exact List.dropWhile_idempotent (p := isBlank) s
      have hc : ¬ isBlank c = true := List.dropWhile_eq_self_iff.mp hstart (Nat.succ_pos _)
      exact List.dropWhile_cons_of_neg hc

theorem trim_trim (s : List Char) : trim (trim s) = trim s := by
  have hstart : trimStart (trim s) = trim s :=
    trimStart_of_prefix (List.rdropWhile_prefix isBlank (trimStart s))
  have hend : trimEnd (trim s) = trim s := List.rdropWhile_idempotent isBlank (trimStart s)
  rw [trim,hstart,hend]

theorem mem_of_mem_trim {c : Char} {s : List Char} (h : c ∈ trim s) : c ∈ s := by
  have hp : trim s <+: trimStart s := List.rdropWhile_prefix isBlank (trimStart s)
  exact List.dropWhile_subset _ (hp.subset h)

end Text

theorem isBlankText_trimStart (s : List Char) :
    isBlankText (trimStart s) = isBlankText s := by
  have hs := List.takeWhile_append_dropWhile (p := isBlank) (l := s)
  have hblank : isBlankText (s.takeWhile isBlank) = true := List.all_takeWhile
  rw [← hs,isBlankText_append,hblank,hs]
  rfl

/-- Trimming takes nothing but blanks from a text. -/
theorem isBlankText_trim (s : List Char) : isBlankText (trim s) = isBlankText s := by
  have hreverse : ∀ t : List Char, isBlankText t.reverse = isBlankText t :=
    fun t => List.all_reverse
  have hend : ∀ t, isBlankText (trimEnd t) = isBlankText t := by
    intro t
    rw [trimEnd,hreverse]
    exact (isBlankText_trimStart t.reverse).trans (hreverse t)
  rw [trim,hend,isBlankText_trimStart]

/-- A separator that is no blank shows. -/
theorem isBlankText_join {separator : Char} (hs : isBlank separator = false)
    {piece : List Char} {pieces : List (List Char)} :
    isBlankText (join separator (piece :: pieces)) = true ↔
      pieces = [] ∧ isBlankText piece = true := by
  cases pieces with
  | nil => simp [join]
  | cons next more =>
      have hj : join separator (piece :: next :: more) =
          piece ++ separator :: join separator (next :: more) := rfl
      rw [hj]
      simp [isBlankText,hs]

/-- A step that can be written: its name is trimmed, and no separator stands in its name or
in an argument. -/
structure Step.Writable (s : Step) : Prop where
  trimmed : trim s.name = s.name
  plain : ∀ part ∈ s.name :: s.args, '|' ∉ part ∧ ';' ∉ part ∧ ',' ∉ part

namespace Step
variable {s : Step} {t : List Char}

theorem not_mem_render {c : Char} (hc : c ≠ ',') (h : ∀ part ∈ s.name :: s.args, c ∉ part) :
    c ∉ s.render :=
  not_mem_join hc h

theorem Writable.parse_render (h : s.Writable) : Step.parse s.render = s := by
  have hs : split ',' s.render = s.name :: s.args :=
    split_join (List.cons_ne_nil _ _) fun part hp => (h.plain part hp).2.2
  rw [Step.parse,hs]
  dsimp only
  rw [h.trimmed]

/-- What is read as a step is the pieces of the text, the first one trimmed. -/
theorem parse_eq (t : List Char) :
    ∃ name args, split ',' t = name :: args ∧ Step.parse t = ⟨trim name,args⟩ := by
  obtain ⟨name,args,hs⟩ := List.exists_cons_of_ne_nil (split_ne_nil ',' t)
  refine ⟨name,args,hs,?_⟩
  rw [Step.parse,hs]

theorem parse_writable (hbar : '|' ∉ t) (hsemicolon : ';' ∉ t) :
    (Step.parse t).Writable := by
  obtain ⟨name,args,hs,hp⟩ := parse_eq t
  have hpiece : ∀ piece ∈ split ',' t, '|' ∉ piece ∧ ';' ∉ piece ∧ ',' ∉ piece := by
    intro piece hm
    exact ⟨fun hc => hbar (mem_of_mem_split hm hc),
      fun hc => hsemicolon (mem_of_mem_split hm hc),not_mem_of_mem_split hm⟩
  rw [hs,List.forall_mem_cons] at hpiece
  obtain ⟨⟨h₁,h₂,h₃⟩,hargs⟩ := hpiece
  rw [hp]
  refine ⟨trim_trim name,List.forall_mem_cons.mpr ⟨?_,hargs⟩⟩
  exact ⟨fun hc => h₁ (mem_of_mem_trim hc),fun hc => h₂ (mem_of_mem_trim hc),
    fun hc => h₃ (mem_of_mem_trim hc)⟩

/-- A step is written as blanks only if it was read from blanks only. -/
theorem isBlankText_of_render_parse (h : isBlankText (Step.parse t).render = true) :
    isBlankText t = true := by
  obtain ⟨name,args,hs,hp⟩ := parse_eq t
  rw [hp,Step.render,isBlankText_join (by decide),isBlankText_trim] at h
  obtain ⟨rfl,hname⟩ := h
  rw [← join_split ',' t,hs]
  exact hname

end Step

namespace Expression
variable {e : List Alternative} {a : Alternative}

/-- Alternatives that can be written: none is empty or blank, and all steps can be. -/
structure Writable (e : List Alternative) : Prop where
  ne_nil : ∀ a ∈ e, a ≠ []
  steps : ∀ a ∈ e, ∀ s ∈ a, s.Writable
  not_blank : ∀ a ∈ e, isBlankText (renderAlternative a) = false

theorem parseAlternative_render (hne : a ≠ []) (h : ∀ s ∈ a, s.Writable) :
    parseAlternative (renderAlternative a) = a := by
  have hs : split ';' (renderAlternative a) = a.map Step.render := by
    refine split_join (fun hm => hne (List.map_eq_nil_iff.mp hm)) ?_
    intro piece hp
    obtain ⟨s,hs,rfl⟩ := List.mem_map.mp hp
    exact Step.not_mem_render (by decide) fun part hm => ((h s hs).plain part hm).2.1
  rw [parseAlternative,hs,List.map_map]
  exact (List.map_congr_left fun s hm => (h s hm).parse_render).trans (List.map_id a)

theorem bar_not_mem_renderAlternative (h : ∀ s ∈ a, s.Writable) :
    '|' ∉ renderAlternative a := by
  refine not_mem_join (by decide) ?_
  intro piece hp
  obtain ⟨s,hs,rfl⟩ := List.mem_map.mp hp
  exact Step.not_mem_render (by decide) fun part hm => ((h s hs).plain part hm).1

theorem segments_render (h : Writable e) : segments (render e) = e.map renderAlternative := by
  cases e with
  | nil => rfl
  | cons a rest =>
      have hs : split '|' (render (a :: rest)) = (a :: rest).map renderAlternative := by
        refine split_join (List.cons_ne_nil _ _) ?_
        intro piece hp
        obtain ⟨b,hb,rfl⟩ := List.mem_map.mp hp
        exact bar_not_mem_renderAlternative (h.steps b hb)
      rw [segments,hs,List.filter_eq_self]
      intro piece hp
      obtain ⟨b,hb,rfl⟩ := List.mem_map.mp hp
      rw [h.not_blank b hb]
      rfl

theorem Writable.parse_render (h : Writable e) : parse (render e) = e := by
  have ha : ∀ a ∈ e, parseAlternative (renderAlternative a) = a :=
    fun a hm => parseAlternative_render (h.ne_nil a hm) (h.steps a hm)
  rw [parse,segments_render h,List.map_map]
  exact (List.map_congr_left ha).trans (List.map_id e)

/-- An alternative is written as blanks only if it was read from blanks only. -/
theorem isBlankText_of_render_parseAlternative {g : List Char}
    (h : isBlankText (renderAlternative (parseAlternative g)) = true) :
    isBlankText g = true := by
  obtain ⟨piece,pieces,hs⟩ := List.exists_cons_of_ne_nil (split_ne_nil ';' g)
  rw [renderAlternative,parseAlternative,hs,List.map_cons,List.map_cons,
    isBlankText_join (by decide),List.map_eq_nil_iff,List.map_eq_nil_iff] at h
  obtain ⟨rfl,hpiece⟩ := h
  rw [← join_split ';' g,hs]
  exact Step.isBlankText_of_render_parse hpiece

/-- What has been read can be written. -/
theorem parse_writable (s : List Char) : Writable (parse s) := by
  have hread : ∀ a ∈ parse s, ∃ g, '|' ∉ g ∧ isBlankText g = false ∧
      a = parseAlternative g := by
    intro a ha
    obtain ⟨g,hg,rfl⟩ := List.mem_map.mp ha
    obtain ⟨hsplit,hblank⟩ := List.mem_filter.mp hg
    exact ⟨g,not_mem_of_mem_split hsplit,by simpa using hblank,rfl⟩
  constructor
  · intro a ha
    obtain ⟨g,-,-,rfl⟩ := hread a ha
    exact fun hm => split_ne_nil ';' g (List.map_eq_nil_iff.mp hm)
  · intro a ha t ht
    obtain ⟨g,hbar,-,rfl⟩ := hread a ha
    obtain ⟨piece,hp,rfl⟩ := List.mem_map.mp ht
    exact Step.parse_writable (fun hc => hbar (mem_of_mem_split hp hc))
      (not_mem_of_mem_split hp)
  · intro a ha
    obtain ⟨g,-,hblank,rfl⟩ := hread a ha
    rw [Bool.eq_false_iff]
    intro hr
    rw [isBlankText_of_render_parseAlternative hr] at hblank
    cases hblank

/-- Reading undoes writing exactly for the alternatives that can be written, and all that is
read can be: it is read once more from what it is written as. -/
theorem parse_undoes_render (e : List Alternative) (s : List Char) :
    (parse (render e) = e ↔ Writable e) ∧ parse (render (parse s)) = parse s := by
  refine ⟨⟨?_,Writable.parse_render⟩,(parse_writable s).parse_render⟩
  intro h
  rw [← h]
  exact parse_writable (render e)

/-- A step without a name and blanks in an argument are kept, blanks around names and blank
alternatives are not. -/
example : parse " req ;; in, a |  |int".toList =
    [[⟨"req".toList,[]⟩,⟨[],[]⟩,⟨"in".toList,[" a ".toList]⟩],[⟨"int".toList,[]⟩]] := by
  decide

end Expression

end Vetting
