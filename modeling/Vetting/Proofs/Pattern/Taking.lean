import Vetting.Proofs.Pattern.Occurrence

/-!
# What a match has taken

A match is found in one of many ways, but what it has taken is always a text of the form of its
pattern, where it stands. So a search comes to a match exactly where the form takes some text, and
a text in which the search finds nothing has no text of the form anywhere in it.
-/
namespace Vetting.Pattern

/-! ## Taking a text of a form -/

theorem Cursor.Near.trans {c d e : Cursor} (h : c.Near d) (h' : d.Near e) : c.Near e :=
  ⟨h.place.trans h'.place,h.passed.trans h'.passed,h.ahead.trans h'.ahead⟩

/-- The rest of a match is left to a cursor behind a text of a form. -/
def Reaches (f : Form) (next : Next) (c d : Cursor) : Prop :=
  ∃ w rest c', c.ahead = w ++ rest ∧ f c.passed w rest ∧ (c.after w).Near c' ∧ next c' = some d

namespace Reaches
variable {f g : Form} {next next' : Next} {c d : Cursor}

theorem here (hf : f c.passed [] c.ahead) (hd : next c = some d) : Reaches f next c d :=
  ⟨[],c.ahead,c,rfl,hf,⟨rfl,rfl,rfl⟩,hd⟩

theorem imp (h : Reaches f next c d) (hfg : ∀ passed w rest, f passed w rest → g passed w rest) :
    Reaches g next c d := by
  obtain ⟨w,rest,c',hw,hf,hnear,hd⟩ := h
  exact ⟨w,rest,c',hw,hfg _ _ _ hf,hnear,hd⟩

theorem followed (h : Reaches f next' c d)
    (h' : ∀ e, next' e = some d → Reaches g next e d) : Reaches (f.followed g) next c d := by
  obtain ⟨u,rest,c₁,hu,hf,hnear,hd⟩ := h
  obtain ⟨v,rest',c₂,hv,hg,hnear',hd⟩ := h' c₁ hd
  rw [← hnear.ahead,Cursor.ahead_after hu] at hv
  subst hv
  rw [← hnear.passed] at hg
  refine ⟨u ++ v,rest',c₂,by rw [hu,List.append_assoc],⟨u,v,rfl,hf,hg⟩,?_,hd⟩
  rw [Cursor.after_append]
  exact (hnear.after v).trans hnear'

end Reaches

/-- A step that takes nothing but texts of a form. -/
def TakesOnly (step : Next → Next) (f : Form) : Prop :=
  ∀ next c d, step next c = some d → Reaches f next c d

/-- Rounds that can follow after some rounds of a repetition. -/
def Form.rounds (f : Form) (lo : Nat) (hi : Option Nat) (done : Nat) : Form :=
  fun passed w rest => ∃ n, lo ≤ done + n ∧ (∀ m, hi = some m → n = 0 ∨ done + n ≤ m) ∧
    f.times n passed w rest

theorem Form.rounds_succ {f : Form} {lo done : Nat} {hi : Option Nat} {passed w rest : List Char}
    (hmore : ∀ m, hi = some m → done < m)
    (h : f.followed (f.rounds lo hi (done + 1)) passed w rest) :
    f.rounds lo hi done passed w rest := by
  obtain ⟨u,v,rfl,hu,n,hlo,hhi,hv⟩ := h
  refine ⟨n + 1,by omega,fun m hm => ?_,u,v,rfl,hu,hv⟩
  have hlt := hmore m hm
  have hor := hhi m hm
  omega

namespace TakesOnly
variable {step step' : Next → Next} {f g : Form} {next : Next} {c d : Cursor}

theorem one (test : Char → Bool) :
    TakesOnly (fun next c => (c.step? test).bind next) (.one test) := by
  intro next c d hd
  obtain ⟨c',hstep,hd⟩ := Option.bind_eq_some_iff.mp hd
  rw [Cursor.step?.eq_def] at hstep
  split at hstep
  · rename_i x rest hahead
    split at hstep
    · rename_i hx
      cases hstep
      have hafter : c.after [x] =
          { c with place := c.place + 1, passed := x :: c.passed, ahead := rest } := by
        simp [Cursor.after,hahead]
      exact ⟨[x],rest,c.after [x],hahead,⟨x,hx,rfl⟩,.refl _,hafter ▸ hd⟩
    · cases hstep
  · cases hstep

theorem followed (h : TakesOnly step f) (h' : TakesOnly step' g) :
    TakesOnly (fun next c => step (step' next) c) (f.followed g) := fun next c d hd =>
  (h _ c d hd).followed fun e he => h' next e d he

theorem either (h : TakesOnly step f) (h' : TakesOnly step' g) :
    TakesOnly (fun next c => match step next c with
      | some d => some d
      | none => step' next c) (fun passed w rest => f passed w rest ∨ g passed w rest) := by
  intro next c d hd
  dsimp only at hd
  split at hd
  · rename_i hstep
    cases hd
    exact (h next c d hstep).imp fun _ _ _ => Or.inl
  · exact (h' next c d hd).imp fun _ _ _ => Or.inr

theorem group (h : TakesOnly step f) (i : Nat) :
    TakesOnly (fun next c => step (fun d => next (d.stopGroup i)) (c.startGroup i)) f := by
  intro next c d hd
  obtain ⟨w,rest,c',hw,hf,hnear,hnext⟩ := h _ _ d hd
  exact ⟨w,rest,c'.stopGroup i,hw,hf,⟨hnear.place,hnear.passed,hnear.ahead⟩,hnext⟩

/-- A look takes nothing, and what it sees is there or not as it should be. -/
theorem look (h : Takes step f) (behind positive : Bool) (width : Nat) :
    TakesOnly (fun next c =>
      match (if behind then c.back? width else some c).bind (step some), positive with
      | some d, true => next { c with starts := d.starts, stops := d.stops }
      | some _, false => none
      | none, true => none
      | none, false => next c)
      (.place fun passed rest => (∃ back before w after, passed = back ++ before ∧
        back.length = (if behind then width else 0) ∧
        back.reverse ++ rest = w ++ after ∧ f before w after) ↔ positive = true) := by
  intro next c d hd
  have hseen := h.exists_start_iff behind width c
  dsimp only at hd
  generalize (if behind then c.back? width else some c).bind (step some) = found at hseen hd
  cases found with
  | none =>
      cases positive with
      | false => exact .here ⟨rfl,iff_of_false (fun h => nomatch hseen.mpr h) nofun⟩ hd
      | true => cases hd
  | some e =>
      cases positive with
      | false => cases hd
      | true =>
          refine ⟨[],c.ahead,{ c with starts := e.starts, stops := e.stops },rfl,
            ⟨rfl,iff_of_true (hseen.mp rfl) rfl⟩,⟨rfl,rfl,rfl⟩,hd⟩

/-! ## Repetitions -/

section
variable {lo : Nat} {hi : Option Nat}

theorem greedily (h : TakesOnly step f) (hbounds : ∀ m, hi = some m → lo ≤ m) {fuel done : Nat}
    {last : Option Nat} (hd : Pattern.greedily step lo hi next fuel done last c = some d) :
    Reaches (f.rounds lo hi done) next c d := by
  induction fuel generalizing done last c with
  | zero => cases hd
  | succ fuel ih =>
      have hround : ∀ last', (∀ m, hi = some m → done < m) →
          step (Pattern.greedily step lo hi next fuel (done + 1) last') c = some d →
            Reaches (f.rounds lo hi done) next c d := fun _ hmore hd =>
        ((h _ c d hd).followed fun _ he => ih he).imp fun _ _ _ => Form.rounds_succ hmore
      have hstay : lo ≤ done → next c = some d → Reaches (f.rounds lo hi done) next c d :=
        fun hlo hd => .here ⟨0,hlo,fun _ _ => Or.inl rfl,Form.times_zero_iff.mpr rfl⟩ hd
      rw [Pattern.greedily] at hd
      split at hd
      case isTrue hforced =>
          exact hround last (fun m hm => Nat.lt_of_lt_of_le hforced (hbounds m hm)) hd
      case isFalse hfree =>
          split at hd
          case isFalse => exact hstay (Nat.not_lt.mp hfree) hd
          case isTrue hmore =>
              split at hd
              · rename_i e hstep
                cases hd
                exact hround _ (Takes.mayRepeat_iff.mp (Bool.and_eq_true_iff.mp hmore).1) hstep
              · exact hstay (Nat.not_lt.mp hfree) hd

theorem lazily (h : TakesOnly step f) (hbounds : ∀ m, hi = some m → lo ≤ m) {fuel done : Nat}
    {last : Option Nat} (hd : Pattern.lazily step lo hi next fuel done last c = some d) :
    Reaches (f.rounds lo hi done) next c d := by
  induction fuel generalizing done last c with
  | zero => cases hd
  | succ fuel ih =>
      have hround : ∀ last', (∀ m, hi = some m → done < m) →
          step (Pattern.lazily step lo hi next fuel (done + 1) last') c = some d →
            Reaches (f.rounds lo hi done) next c d := fun _ hmore hd =>
        ((h _ c d hd).followed fun _ he => ih he).imp fun _ _ _ => Form.rounds_succ hmore
      rw [Pattern.lazily] at hd
      split at hd
      case isTrue hforced =>
          exact hround last (fun m hm => Nat.lt_of_lt_of_le hforced (hbounds m hm)) hd
      case isFalse hfree =>
          split at hd
          · rename_i e hnext
            cases hd
            exact .here ⟨0,Nat.not_lt.mp hfree,fun _ _ => Or.inl rfl,Form.times_zero_iff.mpr rfl⟩
              hnext
          · split at hd
            case isTrue hmore =>
                exact hround _ (Takes.mayRepeat_iff.mp (Bool.and_eq_true_iff.mp hmore).1) hd
            case isFalse => cases hd

theorem rounds_zero {passed w rest : List Char} (h : f.rounds lo hi 0 passed w rest) :
    ∃ n, lo ≤ n ∧ (∀ m, hi = some m → n ≤ m) ∧ f.times n passed w rest := by
  obtain ⟨n,hlo,hhi,hf⟩ := h
  refine ⟨n,by omega,fun m hm => ?_,hf⟩
  have hor := hhi m hm
  omega

end
end TakesOnly

mutual
/-- A node takes nothing but texts of its form. -/
theorem Node.takesOnly : ∀ n : Node, n.isPlain = true → TakesOnly n.run n.form
  | .one o k, _ => .one (k.contains o)
  | .any o, _ => .one fun x => o.dotAll || x != '\n'
  | .anchor o a, _ => fun next c d hd => by
      rw [Node.run] at hd
      split at hd
      · rename_i ha
        refine .here ⟨rfl,?_⟩ hd
        cases a <;> exact ha
      · cases hd
  | .group none body, h => takesOnly_row body h
  | .group (some i) body, h => (takesOnly_row body h).group i
  | .branch alternatives, h => takesOnly_branch alternatives h
  | .repeated .greedy lo hi body, h => fun next c d hd => by
      obtain ⟨hbounds,hbody⟩ := bounds_of_isPlain h
      exact ((takesOnly_row body hbody).greedily hbounds hd).imp fun _ _ _ => TakesOnly.rounds_zero
  | .repeated .lazy lo hi body, h => fun next c d hd => by
      obtain ⟨hbounds,hbody⟩ := bounds_of_isPlain h
      exact ((takesOnly_row body hbody).lazily hbounds hd).imp fun _ _ _ => TakesOnly.rounds_zero
  | .look behind positive body, h => .look (takes_row body h) behind positive (rowWidth body).1

theorem takesOnly_row : ∀ body : List Node, rowPlain body = true →
    TakesOnly (runRow body) (rowForm body)
  | [], _ => fun _ _ _ hd => .here ⟨rfl,trivial⟩ hd
  | n :: rest, h => (n.takesOnly (Bool.and_eq_true_iff.mp h).1).followed
      (takesOnly_row rest (Bool.and_eq_true_iff.mp h).2)

theorem takesOnly_branch : ∀ alternatives : List (List Node), branchPlain alternatives = true →
    TakesOnly (runFirst alternatives) (branchForm alternatives)
  | [], _ => fun _ _ _ hd => nomatch hd
  | body :: rest, h => (takesOnly_row body (Bool.and_eq_true_iff.mp h).1).either
      (takesOnly_branch rest (Bool.and_eq_true_iff.mp h).2)
end

/-! ## Matches and occurrences -/

namespace Regex
variable {p : Regex} {moving : Bool} {c d : Cursor} {s : List Char}

/-- The condition that a match has to meet where it has to move. -/
theorem heedless_moving (moving : Bool) (c : Cursor) :
    Next.Heedless fun d => if moving && d.place == c.place then none else some d := by
  intro d e hde
  dsimp only
  rw [hde.place]
  split <;> rfl

/-- A match has taken a text of the form of its pattern. -/
theorem over_of_matchAt (hp : rowPlain p.nodes = true) (h : p.matchAt moving c = some d) :
    ∃ w, c.Over w d ∧ rowForm p.nodes c.passed w d.ahead := by
  obtain ⟨w,rest,c',hw,hf,hnear,hd⟩ := takesOnly_row p.nodes hp _ c d h
  dsimp only at hd
  split at hd
  · cases hd
  · cases hd
    have hrest : d.ahead = rest := by rw [← hnear.ahead,Cursor.ahead_after hw]
    refine ⟨w,⟨hnear.place.symm,hnear.passed.symm,?_⟩,hrest ▸ hf⟩
    rw [hrest,hw]

/-- Where there is no match, the form takes no text that is not empty. -/
theorem not_form_of_matchAt (hp : rowPlain p.nodes = true) (h : p.matchAt moving c = none)
    {w rest : List Char} (hw : c.ahead = w ++ rest) (hne : w ≠ []) :
    ¬ rowForm p.nodes c.passed w rest := by
  intro hf
  have hnext : (moving && (c.after w).place == c.place) = false := by
    have hplace : ((c.after w).place == c.place) = false := by simp [Cursor.after,hne]
    rw [hplace,Bool.and_false]
  have hsome : (p.matchAt moving c).isSome = true := by
    refine (takes_row p.nodes hp _ (heedless_moving moving c) c).mpr ⟨w,rest,hw,hf,?_⟩
    rw [hnext]
    rfl
  rw [h] at hsome
  cases hsome

end Regex

end Vetting.Pattern
