import Mathlib.Tactic.ByContra
import Vetting.Proofs.Pattern.Language

/-!
# Where matches stand

Whatever the matcher tries, it goes on in the text and never back, so a match is a piece of the
text ahead. Searching for matches from left to right therefore comes to an end: each one starts
where the last one has ended or further on, and of two in the same place the second one is not
empty. The matches of a text are a list of which there is only one, and a search with a limit finds
its first ones.
-/
namespace Vetting.Pattern

/-! ## The matcher moves onward -/

namespace Cursor
variable {c d e : Cursor} {u v w : List Char}

/-- From one cursor to another one over a text that lies between them. -/
structure Over (w : List Char) (c d : Cursor) : Prop where
  place : d.place = c.place + w.length
  passed : d.passed = w.reverse ++ c.passed
  ahead : c.ahead = w ++ d.ahead

/-- A cursor is not before another one. -/
def Onward (c d : Cursor) : Prop := ∃ w, Over w c d

theorem Over.trans (h : Over u c d) (h' : Over v d e) : Over (u ++ v) c e :=
  ⟨by rw [h'.place,h.place,List.length_append,Nat.add_assoc],
    by rw [h'.passed,h.passed,List.reverse_append,List.append_assoc],
    by rw [h.ahead,h'.ahead,List.append_assoc]⟩

theorem over_after (h : w <+: c.ahead) : Over w c (c.after w) := by
  obtain ⟨rest,hrest⟩ := h
  exact ⟨rfl,rfl,by rw [ahead_after hrest.symm,hrest]⟩

/-- Groups make no difference. -/
theorem Onward.of_near (h : c.Near d) : c.Onward d := ⟨[],h.place.symm,h.passed.symm,h.ahead⟩

theorem Onward.refl (c : Cursor) : c.Onward c := .of_near (.refl c)

theorem Onward.trans (h : c.Onward d) (h' : d.Onward e) : c.Onward e := by
  obtain ⟨u,hu⟩ := h
  obtain ⟨v,hv⟩ := h'
  exact ⟨u ++ v,hu.trans hv⟩

theorem step?_onward {test : Char → Bool} (h : c.step? test = some d) : c.Onward d := by
  rw [step?.eq_def] at h
  split at h
  · rename_i x rest hahead
    split at h
    · cases h
      exact ⟨[x],rfl,rfl,hahead⟩
    · cases h
  · cases h

theorem follow?_onward {o : Options} {s : List Char} (h : c.follow? o s = some d) :
    c.Onward d := by
  induction s generalizing c with
  | nil =>
      cases h
      exact .refl _
  | cons x s ih =>
      obtain ⟨c',hstep,hrest⟩ := Option.bind_eq_some_iff.mp h
      exact (step?_onward hstep).trans (ih hrest)

end Cursor

/-- A step that leaves the rest of a match to a cursor further on. -/
def Moves (step : Next → Next) : Prop :=
  ∀ next c d, step next c = some d → ∃ c', c.Onward c' ∧ next c' = some d

namespace Moves
variable {step step' : Next → Next} {next : Next} {c d : Cursor}

theorem of_bind {run : Next} (h : ∀ c d, run c = some d → c.Onward d) :
    Moves fun next c => (run c).bind next := by
  intro next c d hd
  obtain ⟨c',hrun,hnext⟩ := Option.bind_eq_some_iff.mp hd
  exact ⟨c',h c c' hrun,hnext⟩

theorem onward (h : Moves step) (hd : step some c = some d) : c.Onward d := by
  obtain ⟨c',hc,hnext⟩ := h some c d hd
  cases hnext
  exact hc

theorem followed (h : Moves step) (h' : Moves step') :
    Moves fun next c => step (step' next) c := by
  intro next c d hd
  obtain ⟨c₁,hc₁,hd⟩ := h _ c d hd
  obtain ⟨c₂,hc₂,hd⟩ := h' next c₁ d hd
  exact ⟨c₂,hc₁.trans hc₂,hd⟩

theorem either (h : Moves step) (h' : Moves step') :
    Moves fun next c => match step next c with
      | some d => some d
      | none => step' next c := by
  intro next c d hd
  dsimp only at hd
  split at hd
  · rename_i hstep
    cases hd
    exact h next c d hstep
  · exact h' next c d hd

theorem group (h : Moves step) (i : Nat) :
    Moves fun next c => step (fun d => next (d.stopGroup i)) (c.startGroup i) := by
  intro next c d hd
  obtain ⟨c',⟨w,hw⟩,hnext⟩ := h _ _ d hd
  exact ⟨c'.stopGroup i,⟨w,hw.place,hw.passed,hw.ahead⟩,hnext⟩

/-- A look takes nothing, whatever it sees. -/
theorem look (seen : Cursor → Option Cursor) (positive : Bool) :
    Moves fun next c => match seen c, positive with
      | some d, true => next { c with starts := d.starts, stops := d.stops }
      | some _, false => none
      | none, true => none
      | none, false => next c := by
  intro next c d hd
  dsimp only at hd
  cases hseen : seen c with
  | none =>
      rw [hseen] at hd
      cases positive with
      | false => exact ⟨c,.refl c,hd⟩
      | true => cases hd
  | some e =>
      rw [hseen] at hd
      cases positive with
      | false => cases hd
      | true =>
          exact ⟨{ c with starts := e.starts, stops := e.stops },.of_near ⟨rfl,rfl,rfl⟩,hd⟩

/-! ## Repetitions

The rounds of a repetition go onward if its body does, by induction on the bound on them. -/

section
variable {lo : Nat} {hi : Option Nat}

theorem greedily (h : Moves step) (fuel rounds : Nat) (last : Option Nat)
    (hd : Pattern.greedily step lo hi next fuel rounds last c = some d) :
    ∃ c', c.Onward c' ∧ next c' = some d := by
  induction fuel generalizing rounds last c with
  | zero => cases hd
  | succ fuel ih =>
      have hround : ∀ last',
          step (Pattern.greedily step lo hi next fuel (rounds + 1) last') c = some d →
            ∃ c', c.Onward c' ∧ next c' = some d := fun last' hd => by
        obtain ⟨c₁,hc₁,hd⟩ := h _ c d hd
        obtain ⟨c₂,hc₂,hd⟩ := ih _ last' hd
        exact ⟨c₂,hc₁.trans hc₂,hd⟩
      rw [Pattern.greedily] at hd
      split at hd
      · exact hround last hd
      · split at hd
        · split at hd
          · rename_i hstep
            cases hd
            exact hround _ hstep
          · exact ⟨c,.refl c,hd⟩
        · exact ⟨c,.refl c,hd⟩

theorem lazily (h : Moves step) (fuel rounds : Nat) (last : Option Nat)
    (hd : Pattern.lazily step lo hi next fuel rounds last c = some d) :
    ∃ c', c.Onward c' ∧ next c' = some d := by
  induction fuel generalizing rounds last c with
  | zero => cases hd
  | succ fuel ih =>
      have hround : ∀ last',
          step (Pattern.lazily step lo hi next fuel (rounds + 1) last') c = some d →
            ∃ c', c.Onward c' ∧ next c' = some d := fun last' hd => by
        obtain ⟨c₁,hc₁,hd⟩ := h _ c d hd
        obtain ⟨c₂,hc₂,hd⟩ := ih _ last' hd
        exact ⟨c₂,hc₁.trans hc₂,hd⟩
      rw [Pattern.lazily] at hd
      split at hd
      · exact hround last hd
      · split at hd
        · rename_i hnext
          cases hd
          exact ⟨c,.refl c,hnext⟩
        · split at hd
          · exact hround _ hd
          · cases hd

theorem possessively (h : Moves step) (fuel rounds : Nat) (last : Option Nat)
    (hd : Pattern.possessively step lo hi fuel rounds last c = some d) : c.Onward d := by
  induction fuel generalizing rounds last c with
  | zero => cases hd
  | succ fuel ih =>
      rw [Pattern.possessively] at hd
      split at hd
      · obtain ⟨c',hstep,hd⟩ := Option.bind_eq_some_iff.mp hd
        exact (h.onward hstep).trans (ih _ _ hd)
      · split at hd
        · split at hd
          · rename_i c' hstep
            exact (h.onward hstep).trans (ih _ _ hd)
          · cases hd
            exact .refl _
        · cases hd
          exact .refl _

end
end Moves

mutual
/-- Every node leaves the rest of a match to a cursor further on. -/
theorem Node.moves : ∀ n : Node, Moves n.run
  | .one _ _ => .of_bind fun _ _ => Cursor.step?_onward
  | .any _ => .of_bind fun _ _ => Cursor.step?_onward
  | .anchor o a => fun next c d hd => by
      rw [Node.run] at hd
      split at hd
      · exact ⟨c,.refl c,hd⟩
      · cases hd
  | .group none body => moves_row body
  | .group (some i) body => (moves_row body).group i
  | .atomic body => .of_bind fun _ _ => (moves_row body).onward
  | .branch alternatives => moves_branch alternatives
  | .repeated .greedy _ _ body => fun _ _ _ => (moves_row body).greedily _ _ _
  | .repeated .lazy _ _ body => fun _ _ _ => (moves_row body).lazily _ _ _
  | .repeated .possessive _ _ body => .of_bind fun _ _ => (moves_row body).possessively _ _ _
  | .again o i k => fun next c d hd => by
      rw [Node.run] at hd
      split at hd
      · obtain ⟨c',hfollow,hd⟩ := Option.bind_eq_some_iff.mp hd
        exact ⟨c',Cursor.follow?_onward hfollow,hd⟩
      · cases hd
  | .look _ positive _ => .look _ positive
  | .given i yes no => fun next c d hd => by
      rw [Node.run] at hd
      split at hd
      · exact moves_row yes next c d hd
      · exact moves_row no next c d hd

theorem moves_row : ∀ body : List Node, Moves (runRow body)
  | [] => fun _ c _ hd => ⟨c,.refl c,hd⟩
  | n :: rest => n.moves.followed (moves_row rest)

theorem moves_branch : ∀ alternatives : List (List Node), Moves (runFirst alternatives)
  | [] => fun _ _ _ hd => nomatch hd
  | body :: rest => (moves_row body).either (moves_branch rest)
end

/-- A match takes a text that lies ahead, and where it has to move this is not empty. -/
theorem Regex.matchAt_over {p : Regex} {moving : Bool} {c d : Cursor}
    (h : p.matchAt moving c = some d) : ∃ w, c.Over w d ∧ (moving = true → w ≠ []) := by
  obtain ⟨c',⟨w,hw⟩,hd⟩ := moves_row p.nodes _ c d h
  split at hd
  · cases hd
  · rename_i hplace
    cases hd
    refine ⟨w,hw,?_⟩
    rintro rfl rfl
    exact hplace (by simp [hw.place])

/-! ## The matches of a text -/

/-- The same place, with no groups. -/
def Cursor.afresh (c : Cursor) : Cursor := { c with starts := #[], stops := #[] }

/-- What lies behind the last one of some matches. -/
def textAfter : List Found → List Char → List Char
  | [], s => s
  | m :: ms, _ => textAfter ms m.stop.ahead

/-- A text with something else in the place of some of its matches. -/
def replaceFirst (f : Found → List Char) (ms : List Found) (s : List Char) : List Char :=
  (ms.flatMap fun m => m.gap ++ f m) ++ textAfter ms s

namespace Regex

/-- No match starts at a cursor or further on; where it has to move, none that is not empty starts
at the cursor itself. -/
def Unmatched (p : Regex) (moving : Bool) (c : Cursor) : Prop :=
  ∀ u, u <+: c.ahead → p.matchAt (moving && u.isEmpty) (c.after u) = none

/-- The first match from a cursor on. -/
structure First (p : Regex) (moving : Bool) (c : Cursor) (m : Found) : Prop where
  gap : m.gap <+: c.ahead
  start : m.start = c.place + m.gap.length
  unmatched : ∀ u, u <+: m.gap → u ≠ m.gap →
    p.matchAt (moving && u.isEmpty) (c.after u) = none
  stop : p.matchAt (moving && m.gap.isEmpty) (c.after m.gap) = some m.stop

/-- The matches from a cursor on, from left to right. After an empty one there is none that is
empty and in the same place. -/
inductive Matches (p : Regex) : Bool → Cursor → List Found → Prop
  | none {moving : Bool} {c : Cursor} (h : p.Unmatched moving c) : Matches p moving c []
  | next {moving : Bool} {c : Cursor} {m : Found} {ms : List Found} (h : p.First moving c m)
      (hrest : Matches p m.isEmpty m.stop.afresh ms) : Matches p moving c (m :: ms)

section
variable {p : Regex} {moving : Bool} {c : Cursor} {m m' : Found} {ms ms' : List Found}

/-- The text that a match has taken lies behind its gap. -/
theorem First.exists_over (h : p.First moving c m) : ∃ w, c.Over (m.gap ++ w) m.stop ∧
    m.start + w.length = m.stop.place ∧ ((moving && m.gap.isEmpty) = true → w ≠ []) := by
  obtain ⟨w,hw,hmoving⟩ := matchAt_over h.stop
  refine ⟨w,(Cursor.over_after h.gap).trans hw,?_,hmoving⟩
  rw [h.start,hw.place]
  rfl

theorem First.unique (h : p.First moving c m) (h' : p.First moving c m') : m = m' := by
  have hgap : m.gap = m'.gap := by
    by_contra hne
    rcases List.prefix_or_prefix_of_prefix h.gap h'.gap with hle | hle
    · exact nomatch h.stop.symm.trans (h'.unmatched _ hle hne)
    · exact nomatch h'.stop.symm.trans (h.unmatched _ hle (Ne.symm hne))
  have hstart : m.start = m'.start := by rw [h.start,h'.start,hgap]
  have hstop : m.stop = m'.stop := by
    have hsame := h.stop
    rw [hgap,h'.stop] at hsame
    exact (Option.some.inj hsame).symm
  cases m
  cases m'
  cases hgap
  cases hstart
  cases hstop
  rfl

theorem First.not_unmatched (h : p.First moving c m) : ¬ p.Unmatched moving c := fun hnone =>
  nomatch h.stop.symm.trans (hnone _ h.gap)

/-- There is one list of matches at most. -/
theorem Matches.unique (h : p.Matches moving c ms) (h' : p.Matches moving c ms') : ms = ms' := by
  induction h generalizing ms' with
  | none hnone =>
      cases h' with
      | none => rfl
      | next hfirst => exact absurd hnone hfirst.not_unmatched
  | next hfirst _ ih =>
      cases h' with
      | none hnone => exact absurd hnone hfirst.not_unmatched
      | next hfirst' hrest' =>
          cases hfirst.unique hfirst'
          rw [ih hrest']

/-- With their own texts in their places, the matches make up the text, up to any of them. -/
theorem Matches.replaceFirst_text (h : p.Matches moving c ms) (hc : c.place = c.passed.length)
    (k : Nat) : replaceFirst Found.text (ms.take k) c.ahead = c.ahead := by
  induction h generalizing k with
  | none => simp [replaceFirst,textAfter]
  | @next moving c m ms hfirst _ ih =>
      obtain ⟨w,hw,hplace,-⟩ := hfirst.exists_over
      have hpassed : m.stop.afresh.place = m.stop.afresh.passed.length := by
        show m.stop.place = m.stop.passed.length
        rw [hw.place,hw.passed,hc]
        simp only [List.length_append,List.length_reverse]
        omega
      have htext : m.text = w := by
        have hwhole : m.stop.whole = (c.passed.reverse ++ m.gap) ++ (w ++ m.stop.ahead) := by
          simp [Cursor.whole,hw.passed]
        have hlen : (c.passed.reverse ++ m.gap).length = m.start := by
          rw [List.length_append,List.length_reverse,hfirst.start,hc]
        rw [Found.text,hwhole,← hlen,List.drop_left,hlen,← hplace,Nat.add_sub_cancel_left,
          List.take_left]
      cases k with
      | zero => rfl
      | succ k =>
          calc replaceFirst Found.text ((m :: ms).take (k + 1)) c.ahead
              = m.gap ++ m.text ++ replaceFirst Found.text (ms.take k) m.stop.ahead := by
                simp [replaceFirst,textAfter]
            _ = m.gap ++ w ++ m.stop.ahead := by
                rw [htext]
                exact congrArg (m.gap ++ w ++ ·) (ih hpassed k)
            _ = c.ahead := hw.ahead.symm

/-! ## The search -/

/-- How many matches there can be from a cursor on: two for each character, an empty one and one
that is not, and an empty one at the end. -/
def most (moving : Bool) (c : Cursor) : Nat := 2 * c.ahead.length + if moving then 0 else 1

theorem First.most_lt (h : p.First moving c m) : most m.isEmpty m.stop < most moving c := by
  obtain ⟨w,hw,hplace,hmoving⟩ := h.exists_over
  have hlen : c.ahead.length = m.gap.length + w.length + m.stop.ahead.length := by
    rw [hw.ahead,List.length_append,List.length_append]
  unfold most
  cases w with
  | cons x w =>
      rw [List.length_cons] at hlen
      split <;> split <;> omega
  | nil =>
      -- An empty match takes nothing off the text ahead, but the one after it has to move.
      have hempty : m.isEmpty = true := beq_iff_eq.mpr hplace.symm
      rw [if_pos hempty]
      split
      · rename_i htrue
        subst htrue
        have hgap : m.gap ≠ [] := fun hnil => hmoving (by rw [hnil]; rfl) rfl
        have hpos : 0 < m.gap.length := List.length_pos_iff.mpr hgap
        omega
      · omega

theorem First.here {d : Cursor} (h : p.matchAt moving c = some d) :
    p.First moving c ⟨[],c.place,d⟩ :=
  ⟨List.nil_prefix,rfl,fun _ hu hne => absurd (List.prefix_nil.mp hu) hne,
    (congrArg (p.matchAt · c) (Bool.and_true moving)).trans h⟩

section
variable {x : Char} {rest gap u : List Char} {n : Nat} {d : Cursor}

theorem matchAt_after_cons : p.matchAt (moving && (x :: u).isEmpty) (c.after (x :: u)) =
    p.matchAt (false && u.isEmpty) ((c.after [x]).after u) := by
  rw [← Cursor.after_append,List.isEmpty_cons,Bool.and_false,Bool.false_and]
  rfl

/-- What does not match at a cursor nor further on does not match from it on. -/
theorem matchAt_of_prefix_cons (hat : p.matchAt moving c = none)
    (h : ∀ v, u = x :: v → p.matchAt (false && v.isEmpty) ((c.after [x]).after v) = none)
    (hu : u <+: x :: rest) : p.matchAt (moving && u.isEmpty) (c.after u) = none := by
  rcases List.prefix_cons_iff.mp hu with rfl | ⟨v,rfl,-⟩
  · exact (congrArg (p.matchAt · c) (Bool.and_true moving)).trans hat
  · rw [matchAt_after_cons]
    exact h v rfl

theorem Unmatched.cons (hc : c.ahead = x :: rest) (hat : p.matchAt moving c = none)
    (h : p.Unmatched false (c.after [x])) : p.Unmatched moving c := by
  intro u hu
  rw [hc] at hu
  refine matchAt_of_prefix_cons hat ?_ hu
  rintro v rfl
  refine h v ?_
  rw [Cursor.ahead_after hc]
  exact (List.cons_prefix_cons.mp hu).2

theorem First.cons (hc : c.ahead = x :: rest) (hat : p.matchAt moving c = none)
    (h : p.First false (c.after [x]) ⟨gap,n,d⟩) : p.First moving c ⟨x :: gap,n,d⟩ := by
  have hgap : gap <+: (c.after [x]).ahead := h.gap
  rw [Cursor.ahead_after hc] at hgap
  refine ⟨hc ▸ List.cons_prefix_cons.mpr ⟨rfl,hgap⟩,?_,fun u hu hne => ?_,?_⟩
  · rw [h.start,List.length_cons,Nat.add_comm gap.length,← Nat.add_assoc]
    rfl
  · refine matchAt_of_prefix_cons hat ?_ hu
    rintro v rfl
    exact h.unmatched v (List.cons_prefix_cons.mp hu).2 fun hv => hne (congrArg (x :: ·) hv)
  · rw [matchAt_after_cons]
    exact h.stop

end

/-- A search finds the first match. -/
theorem find?_first (p : Regex) (moving : Bool) (place : Nat) (passed ahead : List Char) :
    match p.find? moving place passed ahead with
    | none => p.Unmatched moving ⟨place,passed,ahead,#[],#[]⟩
    | some (gap,d) => p.First moving ⟨place,passed,ahead,#[],#[]⟩ ⟨gap,place + gap.length,d⟩ := by
  induction ahead generalizing moving place passed with
  | nil =>
      rw [find?]
      cases hat : p.matchAt moving ⟨place,passed,[],#[],#[]⟩ with
      | none =>
          intro u hu
          cases List.prefix_nil.mp hu
          exact (congrArg (p.matchAt · _) (Bool.and_true moving)).trans hat
      | some d => exact .here hat
  | cons x rest ih =>
      have hrest := ih false (place + 1) (x :: passed)
      rw [find?]
      cases hat : p.matchAt moving ⟨place,passed,x :: rest,#[],#[]⟩ with
      | some d => exact .here hat
      | none =>
          dsimp only
          revert hrest
          cases p.find? false (place + 1) (x :: passed) rest with
          | none => exact fun hnone => .cons rfl hat hnone
          | some r =>
              intro hfirst
              dsimp only at hfirst
              rw [Nat.add_right_comm] at hfirst
              exact .cons rfl hat hfirst

theorem exists_matches (p : Regex) (moving : Bool) (c : Cursor) :
    ∃ ms, p.Matches moving c.afresh ms := by
  induction hmost : most moving c using Nat.strongRecOn generalizing moving c with
  | _ _ ih =>
    have hfind := p.find?_first moving c.place c.passed c.ahead
    revert hfind
    cases p.find? moving c.place c.passed c.ahead with
    | none => exact fun hnone => ⟨[],.none hnone⟩
    | some r =>
        intro hfirst
        obtain ⟨ms,hms⟩ := ih _ (hmost ▸ hfirst.most_lt) _ _ rfl
        exact ⟨_ :: ms,.next hfirst hms⟩

/-- With a limit the search finds as many of the matches as the limit says, and no others. -/
theorem findAll_of_matches (c : Cursor) (h : p.Matches moving c.afresh ms) (limit : Option Nat)
    {fuel : Nat} (hfuel : most moving c < fuel) :
    p.findAll limit fuel moving c.place c.passed c.ahead =
      (limit.elim ms (ms.take ·),textAfter (limit.elim ms (ms.take ·)) c.ahead) := by
  induction fuel generalizing moving c ms limit with
  | zero => exact absurd hfuel (Nat.not_lt_zero _)
  | succ fuel ih =>
      rw [findAll]
      split
      · rename_i hlimit
        rw [hlimit]
        rfl
      · rename_i hlimit
        have hfind := p.find?_first moving c.place c.passed c.ahead
        revert hfind
        cases p.find? moving c.place c.passed c.ahead with
        | none =>
            intro hnone
            cases h.unique (.none hnone)
            cases limit <;> simp [textAfter]
        | some r =>
            intro hfirst
            cases h with
            | none hnone => exact absurd hnone hfirst.not_unmatched
            | next hfirst' hrest =>
                cases hfirst.unique hfirst'
                have hless : most _ _ < most moving c := hfirst.most_lt
                dsimp only
                rw [ih _ hrest _ (by omega)]
                cases limit with
                | none => rfl
                | some n =>
                    cases n with
                    | zero => exact absurd rfl hlimit
                    | succ n => rfl

/-- Replacing matches, with or without a limit, goes by the matches of the text. -/
theorem replace_eq {s : List Char} (h : p.Matches false (.ofText s) ms) (limit : Option Nat)
    (f : Found → List Char) :
    p.replace limit f s = replaceFirst f (limit.elim ms (ms.take ·)) s := by
  have hall : p.findAll limit (2 * s.length + 2) false 0 [] s = _ :=
    findAll_of_matches (.ofText s) h limit (Nat.lt_succ_self (2 * s.length + 1))
  rw [replace,hall]
  rfl

end
end Regex

end Vetting.Pattern
