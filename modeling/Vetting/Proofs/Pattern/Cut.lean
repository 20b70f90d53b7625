import Vetting.Proofs.Pattern.Taking

/-!
# Cutting out what matches

Putting the same mask in the place of every match leaves the gaps between the matches as they
were. A text with nothing of the mask in it can so only be in a gap, and there it was before. If
matches depend on their neighbours only in that a boundary has to be there at both ends, no match
is left: where the mask makes a boundary, the match that it stands for had one.
-/
namespace Vetting.Pattern

/-! ## Occurrences -/

/-- A form takes some text further on. -/
def Form.Occurs (f : Form) (passed s : List Char) : Prop :=
  ∃ u w rest, s = u ++ (w ++ rest) ∧ f (u.reverse ++ passed) w rest

/-- What a form takes is not empty. -/
def Form.Solid (f : Form) : Prop := ∀ passed w rest, f passed w rest → w ≠ []

/-- All texts of a form are cut out from left to right, and each one leaves a mask. -/
inductive Cut (f : Form) (mask : List Char) : List Char → List Char → List Char → Prop
  | done {passed s : List Char} (h : ¬ f.Occurs passed s) : Cut f mask passed s s
  | next {passed gap w rest out : List Char} (hw : f (gap.reverse ++ passed) w rest)
      (hgap : ∀ u v x rest', gap = u ++ v → v ≠ [] → v ++ (w ++ rest) = x ++ rest' →
        ¬ f (u.reverse ++ passed) x rest')
      (hrest : Cut f mask (w.reverse ++ (gap.reverse ++ passed)) rest out) :
      Cut f mask passed (gap ++ (w ++ rest)) (gap ++ (mask ++ out))

namespace Regex
variable {p : Regex} {moving : Bool} {c : Cursor} {ms : List Found} {s : List Char}

theorem not_form_of_prefix (hp : rowPlain p.nodes = true) (hsolid : (rowForm p.nodes).Solid)
    {u w rest : List Char} (hu : c.ahead = u ++ (w ++ rest))
    (h : p.matchAt moving (c.after u) = none) : ¬ rowForm p.nodes (u.reverse ++ c.passed) w rest :=
  fun hf => not_form_of_matchAt hp h (Cursor.ahead_after hu) (hsolid _ _ _ hf) hf

theorem Unmatched.not_occurs (hp : rowPlain p.nodes = true) (hsolid : (rowForm p.nodes).Solid)
    (h : p.Unmatched moving c) : ¬ (rowForm p.nodes).Occurs c.passed c.ahead := by
  rintro ⟨u,w,rest,hu,hf⟩
  exact not_form_of_prefix hp hsolid hu (h u ⟨_,hu.symm⟩) hf

theorem Matches.cut (hp : rowPlain p.nodes = true) (hsolid : (rowForm p.nodes).Solid)
    (mask : List Char) (h : p.Matches moving c ms) :
    Cut (rowForm p.nodes) mask c.passed c.ahead (replaceFirst (fun _ => mask) ms c.ahead) := by
  induction h with
  | none hnone => exact .done (hnone.not_occurs hp hsolid)
  | @next moving c m ms hfirst _ ih =>
      obtain ⟨w,hw,hform⟩ := over_of_matchAt hp hfirst.stop
      obtain ⟨ahead,hahead⟩ := hfirst.gap
      have hafter : (c.after m.gap).ahead = ahead := Cursor.ahead_after hahead.symm
      have htext : ahead = w ++ m.stop.ahead := hafter.symm.trans hw.ahead
      have hcut : Cut (rowForm p.nodes) mask (w.reverse ++ (m.gap.reverse ++ c.passed))
          m.stop.ahead (replaceFirst (fun _ => mask) ms m.stop.ahead) := by
        have hpassed : m.stop.passed = w.reverse ++ (m.gap.reverse ++ c.passed) := hw.passed
        rw [← hpassed]
        exact ih
      have hgap : ∀ u v x rest', m.gap = u ++ v → v ≠ [] → v ++ (w ++ m.stop.ahead) = x ++ rest' →
          ¬ rowForm p.nodes (u.reverse ++ c.passed) x rest' := by
        intro u v x rest' huv hv hx
        have hne : u ≠ m.gap := by
          rintro rfl
          exact hv (List.self_eq_append_right.mp huv)
        refine not_form_of_prefix hp hsolid ?_ (hfirst.unmatched u ⟨v,huv.symm⟩ hne)
        rw [← hahead,huv,htext,List.append_assoc,hx]
      have hnext := Cut.next hform hgap hcut
      rw [← htext,hahead] at hnext
      refine cast (congrArg _ ?_) hnext
      simp [replaceFirst,textAfter]

/-- Replacing all matches with a mask cuts out the texts of the form. -/
theorem replace_cut (hp : rowPlain p.nodes = true) (hsolid : (rowForm p.nodes).Solid)
    (mask s : List Char) :
    Cut (rowForm p.nodes) mask [] s (p.replace none (fun _ => mask) s) := by
  obtain ⟨ms,hms⟩ := p.exists_matches false (.ofText s)
  have hreplace : p.replace none (fun _ => mask) s = replaceFirst (fun _ => mask) ms s :=
    replace_eq hms none _
  rw [hreplace]
  exact hms.cut hp hsolid mask

/-- A search finds something exactly where the form takes some text. -/
theorem occursIn_iff (hp : rowPlain p.nodes = true) (hsolid : (rowForm p.nodes).Solid) :
    p.occursIn s = true ↔ (rowForm p.nodes).Occurs [] s := by
  have hfind := p.find?_first false 0 [] s
  rw [occursIn]
  revert hfind
  cases p.find? false 0 [] s with
  | none => exact fun hnone => iff_of_false nofun (hnone.not_occurs hp hsolid)
  | some r =>
      intro hfirst
      obtain ⟨w,hw,hform⟩ := over_of_matchAt hp hfirst.stop
      obtain ⟨ahead,hahead⟩ := hfirst.gap
      refine iff_of_true rfl ⟨r.1,w,r.2.ahead,?_,hform⟩
      rw [← hw.ahead,Cursor.ahead_after hahead.symm]
      exact hahead.symm

end Regex

/-! ## What is left -/

section
variable {f : Form} {a z y : Char} {inner mask gap out pre w post passed s rest : List Char}

theorem Cut.eq_of_not_occurs (h : Cut f mask passed s out) (hs : ¬ f.Occurs passed s) :
    out = s := by
  cases h with
  | done => rfl
  | @next _ gap w rest _ hw => exact absurd ⟨gap,w,rest,rfl,hw⟩ hs

/-- A text lies apart from a mask: it has neither end of the mask in it, and something else than
what the mask has. -/
structure Apart (a : Char) (inner : List Char) (z : Char) (w : List Char) : Prop where
  first : a ∉ w
  last : z ∉ w
  other : ∃ x ∈ w, x ∉ a :: (inner ++ [z])

theorem Apart.ne_nil (h : Apart a inner z w) : w ≠ [] := by
  obtain ⟨x,hx,-⟩ := h.other
  exact List.ne_nil_of_mem hx

/-- A text apart from a mask stands before the mask or behind it. -/
theorem Apart.before_or_behind (h : Apart a inner z w)
    (he : gap ++ (a :: (inner ++ [z]) ++ out) = pre ++ (w ++ post)) :
    (∃ v, gap = pre ++ (w ++ v) ∧ post = v ++ (a :: (inner ++ [z]) ++ out)) ∨
      ∃ u, pre = gap ++ (a :: (inner ++ [z]) ++ u) ∧ out = u ++ (w ++ post) := by
  rw [← List.append_assoc pre] at he
  rcases List.append_eq_append_iff.mp he with ⟨v,hv,hmask⟩ | ⟨v,hv,hpost⟩
  · -- The text ends behind the gap: then it begins there, and behind the mask too.
    cases v with
    | nil =>
        rw [List.append_nil] at hv
        exact Or.inl ⟨[],by rw [← hv,List.append_nil],hmask.symm⟩
    | cons y v =>
        have hy : a = y := (List.cons.inj hmask).1
        rcases List.append_eq_append_iff.mp hv with ⟨t,-,ht⟩ | ⟨t,hpre,ht⟩
        · exact absurd (ht ▸ List.mem_append_right t (hy ▸ List.mem_cons_self)) h.first
        · rw [ht,List.append_assoc] at hmask
          rcases List.append_eq_append_iff.mp hmask with ⟨q,hq,hout⟩ | ⟨q,hq,hout⟩
          · exact Or.inr ⟨q,by rw [hpre,hq],hout⟩
          · have hz : q = [] ∨ z ∈ q := by
              rcases List.eq_nil_or_concat q with hnil | ⟨q',y,rfl⟩
              · exact Or.inl hnil
              · rw [List.concat_eq_append,← List.append_assoc,← List.cons_append] at hq
                cases (List.append_inj' hq rfl).2
                exact Or.inr (by simp)
            rcases hz with rfl | hz
            · rw [List.append_nil] at hq
              exact Or.inr ⟨[],by rw [hpre,List.append_nil,hq],hout.symm⟩
            · rcases List.append_eq_append_iff.mp hout with ⟨r,hr,-⟩ | ⟨r,hr,-⟩
              · obtain ⟨x,hx,hother⟩ := h.other
                refine absurd ?_ hother
                rw [hq,hr]
                exact List.mem_append_right t (List.mem_append_left r hx)
              · exact absurd (hr ▸ List.mem_append_left r hz) h.last
  · exact Or.inl ⟨v,by rw [hv,List.append_assoc],hpost⟩

/-- A text apart from the mask that is there after cutting has been there before. -/
theorem Cut.infix_of_apart (h : Cut f (a :: (inner ++ [z])) passed s out)
    (hw : Apart a inner z w) (hout : w <:+: out) : w <:+: s := by
  induction h with
  | done => exact hout
  | @next _ gap m rest out _ _ _ ih =>
      obtain ⟨pre,post,hout⟩ := hout
      rw [List.append_assoc] at hout
      rcases hw.before_or_behind hout.symm with ⟨v,rfl,-⟩ | ⟨u,-,hu⟩
      · exact ⟨pre,v ++ (m ++ rest),by simp only [List.append_assoc]⟩
      · obtain ⟨pre',post',hrest⟩ := ih ⟨u,post,by rw [hu,List.append_assoc]⟩
        exact ⟨gap ++ (m ++ pre'),post',by rw [← hrest]; simp only [List.append_assoc]⟩

end

/-! ## Texts between boundaries -/

/-- Texts of some kind with a boundary at either end. Whether there is one depends on the
characters next to it. -/
def Form.framed (E : Option Char → Option Char → Prop) (P : List Char → Prop) : Form :=
  fun passed w rest => E passed.head? (w ++ rest).head? ∧ P w ∧
    E (w.reverse ++ passed).head? rest.head?

section
variable {E : Option Char → Option Char → Prop} {P : List Char → Prop} {a z : Char}
  {inner passed before w u rest rest' s out : List Char}

theorem head?_append_of_ne_nil (hw : w ≠ []) (s s' : List Char) :
    (w ++ s).head? = (w ++ s').head? := by
  obtain ⟨x,w,rfl⟩ := List.exists_cons_of_ne_nil hw
  rfl

/-- A text of the kind stands between boundaries wherever it has the same neighbours or boundaries
in their place. -/
theorem Form.framed_of_near (h : framed E P before w rest) (hw : w ≠ [])
    (hl : before.head? = passed.head? ∨ E passed.head? (w ++ rest').head?)
    (hr : rest.head? = rest'.head? ∨ E (w.reverse ++ passed).head? rest'.head?) :
    framed E P passed w rest' := by
  obtain ⟨hstart,hP,hstop⟩ := h
  rw [head?_append_of_ne_nil hw rest rest'] at hstart
  rw [head?_append_of_ne_nil (mt List.reverse_eq_nil_iff.mp hw) before passed] at hstop
  refine ⟨?_,hP,?_⟩
  · rcases hl with heq | hl
    · rwa [← heq]
    · exact hl
  · rcases hr with heq | hr
    · rwa [← heq]
    · exact hr

/-- Boundaries in front of a text are boundaries in front of what it begins with. -/
theorem near_start (hb : before.head? = passed.head? ∨ E passed.head? (u ++ s).head?) :
    (u.reverse ++ before).head? = (u.reverse ++ passed).head? ∨
      E (u.reverse ++ passed).head? s.head? := by
  cases u with
  | nil => exact hb
  | cons x u =>
      have hne := mt List.reverse_eq_nil_iff.mp (List.cons_ne_nil x u)
      exact Or.inl (head?_append_of_ne_nil hne _ _)

/-- After cutting there is no text left of the kind that has been cut out. A text next to a mask
has a boundary there, but so it had when the text that the mask stands for was next to it. -/
theorem Cut.not_occurs (hP : ∀ w, P w → Apart a inner z w)
    (h : Cut (.framed E P) (a :: (inner ++ [z])) passed s out)
    (hb : before.head? = passed.head? ∨ E passed.head? s.head?) :
    ¬ (Form.framed E P).Occurs before out := by
  induction h generalizing before with
  | @done passed s hnone =>
      rintro ⟨u,w,rest,rfl,hw⟩
      exact hnone ⟨u,w,rest,rfl,Form.framed_of_near hw (hP w hw.2.1).ne_nil
        (near_start hb) (Or.inl rfl)⟩
  | @next passed gap m rest out hm hgap _ ih =>
      rintro ⟨u,w,rest',hout,hw⟩
      have hapart := hP w hw.2.1
      rcases hapart.before_or_behind hout with ⟨v,rfl,rfl⟩ | ⟨u',rfl,rfl⟩
      · have hne : w ++ v ≠ [] := mt List.append_eq_nil_iff.mp fun h => hapart.ne_nil h.1
        refine hgap u (w ++ v) w (v ++ (m ++ rest)) rfl hne (List.append_assoc w v _)
          (Form.framed_of_near hw hapart.ne_nil ?_ ?_)
        · refine near_start ?_
          simpa only [List.append_assoc] using hb
        · cases v with
          | cons x v => exact Or.inl rfl
          | nil =>
              refine Or.inr ?_
              simpa using hm.1
      · refine @ih ((a :: (inner ++ [z])).reverse ++ (gap.reverse ++ before)) (Or.inr hm.2.2)
          ⟨u',w,rest',rfl,?_⟩
        simpa only [List.reverse_append,List.append_assoc] using hw

end
end Vetting.Pattern
