import Vetting.Pattern.Match

/-!
# What patterns match

A form says which texts can be taken at a place, given what has been passed there and what
follows. Most nodes have one: a node that tests a character takes one character, a look takes
nothing, a repetition takes texts of its body one after the other. A text matches a pattern as
a whole exactly where the form of the pattern takes all of it, so the order in which the
matcher tries its possibilities makes no difference, and none of them is missed.

Left out are nodes that depend on what a group has matched or that keep the first match found,
for which the order matters.
-/
namespace Vetting.Pattern

/-- Which texts can be taken, given what has been passed (nearest first) and what follows. -/
abbrev Form := List Char → List Char → List Char → Prop

namespace Form
variable {f g : Form} {p : List Char → List Char → Prop} {test : Char → Bool}
  {passed w rest : List Char} {n : Nat}

/-- Nothing is taken, at places of some kind only. -/
def place (p : List Char → List Char → Prop) : Form := fun passed w rest =>
  w = [] ∧ p passed rest

def one (test : Char → Bool) : Form := fun _ w _ => ∃ x, test x = true ∧ w = [x]

def followed (f g : Form) : Form := fun passed w rest =>
  ∃ u v, w = u ++ v ∧ f passed u (v ++ rest) ∧ g (u.reverse ++ passed) v rest

def times (f : Form) : Nat → Form
  | 0 => place fun _ _ => True
  | n + 1 => f.followed (f.times n)

theorem times_zero_iff : f.times 0 passed w rest ↔ w = [] := and_iff_left trivial

theorem place_followed_iff :
    (place p).followed f passed w rest ↔ p passed (w ++ rest) ∧ f passed w rest := by
  constructor
  · rintro ⟨u,v,rfl,⟨rfl,hp⟩,hf⟩
    exact ⟨hp,hf⟩
  · rintro ⟨hp,hf⟩
    exact ⟨[],w,rfl,⟨rfl,hp⟩,hf⟩

theorem followed_place_iff :
    f.followed (place p) passed w rest ↔ f passed w rest ∧ p (w.reverse ++ passed) rest := by
  constructor
  · rintro ⟨u,v,rfl,hf,⟨rfl,hp⟩⟩
    rw [List.append_nil]
    exact ⟨hf,hp⟩
  · rintro ⟨hf,hp⟩
    exact ⟨w,[],(List.append_nil w).symm,hf,rfl,hp⟩

theorem followed_assoc_iff {h : Form} : (f.followed g).followed h passed w rest ↔
    f.followed (g.followed h) passed w rest := by
  constructor
  · rintro ⟨_,t,rfl,⟨u,v,rfl,hf,hg⟩,hh⟩
    rw [← List.append_assoc] at hf
    rw [List.reverse_append,List.append_assoc] at hh
    exact ⟨u,v ++ t,List.append_assoc u v t,hf,v,t,rfl,hg,hh⟩
  · rintro ⟨u,_,rfl,hf,v,t,rfl,hg,hh⟩
    refine ⟨u ++ v,t,(List.append_assoc u v t).symm,⟨u,v,rfl,?_,hg⟩,?_⟩
    · rwa [← List.append_assoc]
    · rwa [List.reverse_append,List.append_assoc]

/-- Where the surroundings make no difference, texts are taken one after the other. -/
theorem texts_times_iff {P : List Char → Prop} :
    times (fun _ w _ => P w) n passed w rest ↔
      ∃ ws : List (List Char), ws.length = n ∧ (∀ u ∈ ws, P u) ∧ w = ws.flatten := by
  induction n generalizing passed w with
  | zero =>
      rw [times_zero_iff]
      constructor
      · rintro rfl
        exact ⟨[],rfl,nofun,rfl⟩
      · rintro ⟨ws,hlen,-,rfl⟩
        rw [List.eq_nil_of_length_eq_zero hlen,List.flatten_nil]
  | succ n ih =>
      constructor
      · rintro ⟨u,v,rfl,hu,hv⟩
        obtain ⟨ws,rfl,hall,rfl⟩ := ih.mp hv
        exact ⟨u :: ws,rfl,List.forall_mem_cons.mpr ⟨hu,hall⟩,rfl⟩
      · rintro ⟨ws,hlen,hall,rfl⟩
        obtain ⟨u,ws,rfl⟩ := List.exists_cons_of_length_eq_add_one hlen
        obtain ⟨hu,hall⟩ := List.forall_mem_cons.mp hall
        exact ⟨u,ws.flatten,rfl,hu,ih.mpr ⟨ws,Nat.succ.inj hlen,hall,rfl⟩⟩

/-- Characters that pass a test are taken as often as they come. -/
theorem one_times_iff :
    (one test).times n passed w rest ↔ w.length = n ∧ ∀ x ∈ w, test x = true := by
  induction n generalizing passed w with
  | zero =>
      rw [times_zero_iff,List.length_eq_zero_iff]
      constructor
      · rintro rfl
        exact ⟨rfl,nofun⟩
      · exact And.left
  | succ n ih =>
      constructor
      · rintro ⟨u,v,rfl,⟨x,hx,rfl⟩,hv⟩
        obtain ⟨hlen,hall⟩ := ih.mp hv
        exact ⟨congrArg (· + 1) hlen,List.forall_mem_cons.mpr ⟨hx,hall⟩⟩
      · rintro ⟨hlen,hall⟩
        obtain ⟨x,v,rfl⟩ := List.exists_cons_of_length_eq_add_one hlen
        obtain ⟨hx,hv⟩ := List.forall_mem_cons.mp hall
        exact ⟨[x],v,rfl,⟨x,hx,rfl⟩,ih.mpr ⟨Nat.succ.inj hlen,hv⟩⟩

end Form

/-! ## Forms of nodes -/

mutual
def Node.form : Node → Form
  | .one o k => .one (k.contains o)
  | .any o => .one fun x => o.dotAll || x != '\n'
  | .anchor o a => .place fun passed rest => a.holds o ⟨0,passed,rest,#[],#[]⟩ = true
  | .group _ body => rowForm body
  | .branch alternatives => branchForm alternatives
  | .repeated _ lo hi body => fun passed w rest =>
      ∃ n, lo ≤ n ∧ (∀ m, hi = some m → n ≤ m) ∧ (rowForm body).times n passed w rest
  | .look behind positive body => .place fun passed rest =>
      (∃ back before w after, passed = back ++ before ∧
        back.length = (if behind then (rowWidth body).1 else 0) ∧
        back.reverse ++ rest = w ++ after ∧ rowForm body before w after) ↔ positive = true
  | _ => fun _ _ _ => False

def rowForm : List Node → Form
  | [] => .place fun _ _ => True
  | n :: rest => n.form.followed (rowForm rest)

def branchForm : List (List Node) → Form
  | [] => fun _ _ _ => False
  | body :: rest => fun passed w after =>
      rowForm body passed w after ∨ branchForm rest passed w after
end

section
variable {a b : List Node} {passed w rest : List Char}

theorem rowForm_singleton (n : Node) : rowForm [n] = n.form := by
  funext passed w rest
  exact propext (Form.followed_place_iff.trans (and_iff_left trivial))

theorem rowForm_append :
    rowForm (a ++ b) passed w rest ↔ (rowForm a).followed (rowForm b) passed w rest := by
  induction a generalizing passed w rest with
  | nil => exact (Form.place_followed_iff.trans (and_iff_right trivial)).symm
  | cons n a ih =>
      refine Iff.trans ?_ Form.followed_assoc_iff.symm
      simp only [List.cons_append,rowForm,Form.followed,ih]

theorem form_repeated_one {greed : Greed} {lo : Nat} {hi : Option Nat} {n : Node}
    {test : Char → Bool} (h : n.form = .one test) :
    (Node.repeated greed lo hi [n]).form passed w rest ↔
      lo ≤ w.length ∧ (∀ m, hi = some m → w.length ≤ m) ∧ ∀ x ∈ w, test x = true := by
  rw [Node.form,rowForm_singleton,h]
  simp only [Form.one_times_iff]
  constructor
  · rintro ⟨_,hlo,hhi,rfl,hall⟩
    exact ⟨hlo,hhi,hall⟩
  · rintro ⟨hlo,hhi,hall⟩
    exact ⟨w.length,hlo,hhi,rfl,hall⟩

theorem form_repeated_texts {greed : Greed} {lo : Nat} {hi : Option Nat} {body : List Node}
    {P : List Char → Prop} (h : rowForm body = fun _ w _ => P w) :
    (Node.repeated greed lo hi body).form passed w rest ↔
      ∃ ws : List (List Char), lo ≤ ws.length ∧ (∀ m, hi = some m → ws.length ≤ m) ∧
        (∀ u ∈ ws, P u) ∧ w = ws.flatten := by
  rw [Node.form,h]
  simp only [Form.texts_times_iff]
  constructor
  · rintro ⟨_,hlo,hhi,ws,rfl,hall,hw⟩
    exact ⟨ws,hlo,hhi,hall,hw⟩
  · rintro ⟨ws,hlo,hhi,hall,hw⟩
    exact ⟨ws.length,hlo,hhi,ws,rfl,hall,hw⟩

/-- What can be taken ahead is looked for, and left where it is. -/
theorem form_look_ahead (body : List Node) : (Node.look false true body).form =
    .place fun passed rest => ∃ w after, rest = w ++ after ∧ rowForm body passed w after := by
  funext passed w rest
  refine propext (and_congr_right fun _ => (iff_true_right rfl).trans ?_)
  constructor
  · rintro ⟨back,before,w,after,hpassed,hback,hw,hform⟩
    cases List.eq_nil_of_length_eq_zero hback
    subst hpassed
    exact ⟨w,after,hw,hform⟩
  · rintro ⟨w,after,hw,hform⟩
    exact ⟨[],passed,w,after,rfl,rfl,hw,hform⟩

/-- A character of a class does not come next, or has not come last. -/
theorem form_look_not (o : Options) (k : CharClass) (behind : Bool) :
    (Node.look behind false [.one o k]).form = .place fun passed rest =>
      ∀ x, (if behind then passed else rest).head? = some x → k.contains o x = false := by
  have hwidth : (rowWidth [Node.one o k]).1 = 1 := by
    simp [rowWidth,rowSum,Node.width,capWidth,addWidth,manyTimes]
  funext passed w rest
  refine propext (and_congr_right fun _ => ?_)
  simp only [rowForm_singleton,Node.form,Form.one,hwidth,Bool.false_eq_true,iff_false]
  constructor
  · intro h x hx
    rw [← Bool.not_eq_true]
    intro hk
    obtain ⟨rest',hrest⟩ := List.head?_eq_some_iff.mp hx
    cases behind with
    | false => exact h ⟨[],passed,[x],rest',rfl,rfl,hrest,x,hk,rfl⟩
    | true => exact h ⟨[x],rest',[x],rest,hrest,rfl,rfl,x,hk,rfl⟩
  · rintro h ⟨back,before,_,after,rfl,hback,hw,x,hk,rfl⟩
    refine absurd hk (Bool.not_eq_true _ ▸ h x ?_)
    cases behind with
    | false =>
        cases List.eq_nil_of_length_eq_zero hback
        exact List.head?_eq_some_iff.mpr ⟨after,hw⟩
    | true =>
        obtain ⟨y,rfl⟩ := List.length_eq_one_iff.mp hback
        cases hw
        rfl

end

mutual
/-- Whether what a node matches is settled by its form. -/
def Node.isPlain : Node → Bool
  | .group _ body => rowPlain body
  | .branch alternatives => branchPlain alternatives
  | .repeated greed lo hi body => greed != .possessive && hi.all (lo ≤ ·) && rowPlain body
  | .look _ _ body => rowPlain body
  | .atomic _ => false
  | .again .. => false
  | .given .. => false
  | _ => true

def rowPlain : List Node → Bool
  | [] => true
  | n :: rest => n.isPlain && rowPlain rest

def branchPlain : List (List Node) → Bool
  | [] => true
  | body :: rest => rowPlain body && branchPlain rest
end

/-! ## Steps over texts -/

namespace Cursor
variable {c d : Cursor} {u v w : List Char}

/-- The cursor behind a text that lies ahead. -/
def after (w : List Char) (c : Cursor) : Cursor :=
  { c with place := c.place + w.length, passed := w.reverse ++ c.passed,
           ahead := c.ahead.drop w.length }

/-- Cursors that differ in groups at most. -/
structure Near (c d : Cursor) : Prop where
  place : c.place = d.place
  passed : c.passed = d.passed
  ahead : c.ahead = d.ahead

theorem Near.refl (c : Cursor) : c.Near c := ⟨rfl,rfl,rfl⟩

theorem Near.after (h : c.Near d) (w : List Char) : (c.after w).Near (d.after w) :=
  ⟨by simp only [Cursor.after,h.place],by simp only [Cursor.after,h.passed],
    by simp only [Cursor.after,h.ahead]⟩

theorem after_append (u v : List Char) (c : Cursor) :
    c.after (u ++ v) = (c.after u).after v := by
  simp [after,List.drop_drop,Nat.add_assoc]

theorem ahead_after {rest : List Char} (h : c.ahead = w ++ rest) :
    (c.after w).ahead = rest := by
  simp [after,h]

/-- Going back over some characters puts them ahead. -/
theorem back?_eq_some_iff {n : Nat} : c.back? n = some d ↔
    ∃ back before, c.passed = back ++ before ∧ back.length = n ∧
      d = { c with place := c.place - n, passed := before, ahead := back.reverse ++ c.ahead } := by
  induction n generalizing c with
  | zero =>
      rw [back?,Option.some.injEq]
      constructor
      · rintro rfl
        exact ⟨[],c.passed,rfl,rfl,rfl⟩
      · rintro ⟨back,before,hpassed,hback,rfl⟩
        cases List.eq_nil_of_length_eq_zero hback
        simp only [List.nil_append] at hpassed
        simp only [← hpassed,List.reverse_nil,List.nil_append,Nat.sub_zero]
  | succ n ih =>
      rw [back?]
      cases hpassed : c.passed with
      | nil =>
          refine iff_of_false nofun ?_
          rintro ⟨back,before,h,hback,-⟩
          rw [(List.append_eq_nil_iff.mp h.symm).1] at hback
          cases hback
      | cons x before =>
          rw [ih]
          constructor
          · rintro ⟨back,before',rfl,rfl,rfl⟩
            exact ⟨x :: back,before',rfl,rfl,by simp [Nat.sub_sub,Nat.add_comm]⟩
          · rintro ⟨back,before',h,hback,rfl⟩
            obtain ⟨y,back,rfl⟩ := List.exists_cons_of_length_eq_add_one hback
            obtain ⟨rfl,rfl⟩ := List.cons.inj h
            exact ⟨back,before',rfl,Nat.succ.inj hback,by simp [Nat.sub_sub,Nat.add_comm]⟩

end Cursor

/-- What has to match does not depend on groups. -/
def Next.Heedless (next : Next) : Prop :=
  ∀ c d, Cursor.Near c d → (next c).isSome = (next d).isSome

theorem heedless_some : Next.Heedless some := fun _ _ _ => rfl

/-- A step that can take the texts of a form, and no others. -/
def Takes (step : Next → Next) (f : Form) : Prop :=
  ∀ next, Next.Heedless next → ∀ c, (step next c).isSome = true ↔
    ∃ w rest, c.ahead = w ++ rest ∧ f c.passed w rest ∧ (next (c.after w)).isSome = true

namespace Takes
variable {step step' : Next → Next} {f g : Form} {next next' : Next} {c : Cursor}
  {p : List Char → List Char → Prop}

theorem heedless (h : Takes step f) (hn : next.Heedless) : Next.Heedless (step next) := by
  intro c d hcd
  rw [Bool.eq_iff_iff,h next hn c,h next hn d]
  simp only [hcd.ahead,hcd.passed,hn _ _ (hcd.after _)]

/-- Only whether there is a match further on makes a difference. -/
theorem congr (h : Takes step f) (hn : next.Heedless) (hn' : next'.Heedless)
    (he : ∀ d, (next d).isSome = (next' d).isSome) (c : Cursor) :
    (step next c).isSome = (step next' c).isSome := by
  rw [Bool.eq_iff_iff,h next hn c,h next' hn' c]
  simp only [he]

theorem one (test : Char → Bool) : Takes (fun next c => (c.step? test).bind next) (.one test) := by
  intro next hn c
  dsimp only
  rw [Cursor.step?.eq_def]
  cases hahead : c.ahead with
  | nil =>
      refine iff_of_false Bool.false_ne_true ?_
      rintro ⟨w,rest,h,⟨x,-,rfl⟩,-⟩
      cases h
  | cons x rest =>
      have hafter : c.after [x] =
          { c with place := c.place + 1, passed := x :: c.passed, ahead := rest } := by
        simp [Cursor.after,hahead]
      dsimp only
      split
      · rename_i hx
        rw [Option.bind_some,← hafter]
        constructor
        · intro h
          exact ⟨[x],rest,rfl,⟨x,hx,rfl⟩,h⟩
        · rintro ⟨w,rest',h,⟨y,-,rfl⟩,hnext⟩
          cases h
          exact hnext
      · rename_i hx
        refine iff_of_false Bool.false_ne_true ?_
        rintro ⟨w,rest',h,⟨y,hy,rfl⟩,-⟩
        cases h
        exact hx hy

theorem place (test : Cursor → Bool) (hp : ∀ c, test c = true ↔ p c.passed c.ahead) :
    Takes (fun next c => if test c then next c else none) (.place p) := by
  intro next hn c
  dsimp only
  constructor
  · intro h
    split at h
    · rename_i ht
      exact ⟨[],c.ahead,rfl,⟨rfl,(hp c).mp ht⟩,h⟩
    · cases h
  · rintro ⟨w,rest,h,⟨rfl,hplace⟩,hnext⟩
    rw [List.nil_append] at h
    rwa [if_pos ((hp c).mpr (h ▸ hplace))]

theorem followed (h : Takes step f) (h' : Takes step' g) :
    Takes (fun next c => step (step' next) c) (f.followed g) := by
  intro next hn c
  rw [h _ (h'.heedless hn)]
  constructor
  · rintro ⟨u,rest,hu,hf,hnext⟩
    obtain ⟨v,rest',hv,hg,hnext⟩ := (h' next hn _).mp hnext
    rw [Cursor.ahead_after hu] at hv
    subst hv
    exact ⟨u ++ v,rest',by rw [hu,List.append_assoc],⟨u,v,rfl,hf,hg⟩,
      by rwa [Cursor.after_append]⟩
  · rintro ⟨w,rest,hw,⟨u,v,rfl,hf,hg⟩,hnext⟩
    rw [List.append_assoc] at hw
    rw [Cursor.after_append] at hnext
    exact ⟨u,v ++ rest,hw,hf,
      (h' next hn _).mpr ⟨v,rest,Cursor.ahead_after hw,hg,hnext⟩⟩

/-! ## Repetitions -/

section
variable {lo : Nat} {hi : Option Nat}

theorem mayRepeat_iff {rounds : Nat} :
    mayRepeat hi rounds = true ↔ ∀ m, hi = some m → rounds < m := by
  cases hi <;> simp [mayRepeat]

theorem heedless_greedily (h : Takes step f) (hn : next.Heedless) (fuel rounds : Nat)
    (last : Option Nat) : Next.Heedless (greedily step lo hi next fuel rounds last) := by
  induction fuel generalizing rounds last with
  | zero => exact fun _ _ _ => rfl
  | succ fuel ih =>
      intro c d hcd
      have hforced := h.heedless (ih (rounds + 1) last) c d hcd
      have hfree := h.heedless (ih (rounds + 1) (some d.place)) c d hcd
      simp only [greedily,hcd.place]
      split
      · exact hforced
      split
      · revert hfree
        cases step (greedily step lo hi next fuel (rounds + 1) (some d.place)) c <;>
          cases step (greedily step lo hi next fuel (rounds + 1) (some d.place)) d
        · exact fun _ => hn c d hcd
        · exact nofun
        · exact nofun
        · exact fun _ => rfl
      · exact hn c d hcd

/-- What greedy repetition finds are rounds of its body, no fewer and no more than it may make. -/
theorem exists_of_greedily (h : Takes step f) (hn : next.Heedless)
    (hbounds : ∀ m, hi = some m → lo ≤ m) {fuel rounds : Nat} {last : Option Nat}
    (hr : (greedily step lo hi next fuel rounds last c).isSome = true) :
    ∃ n w rest, lo ≤ rounds + n ∧ (∀ m, hi = some m → n = 0 ∨ rounds + n ≤ m) ∧
      c.ahead = w ++ rest ∧ f.times n c.passed w rest ∧ (next (c.after w)).isSome = true := by
  induction fuel generalizing rounds last c with
  | zero => cases hr
  | succ fuel ih =>
      have hround : ∀ last', (∀ m, hi = some m → rounds < m) →
          (step (greedily step lo hi next fuel (rounds + 1) last') c).isSome = true →
          ∃ n w rest, lo ≤ rounds + n ∧ (∀ m, hi = some m → n = 0 ∨ rounds + n ≤ m) ∧
            c.ahead = w ++ rest ∧ f.times n c.passed w rest ∧
              (next (c.after w)).isSome = true := by
        intro last' hmore hstep
        obtain ⟨u,rest,hu,hf,hr⟩ :=
          (h _ (h.heedless_greedily hn fuel (rounds + 1) last') c).mp hstep
        obtain ⟨n,w,rest',hlo,hhi,hw,hf',hnext⟩ := ih hr
        rw [Cursor.ahead_after hu] at hw
        subst hw
        refine ⟨n + 1,u ++ w,rest',by omega,fun m hm => ?_,by rw [hu,List.append_assoc],
          ⟨u,w,rfl,hf,hf'⟩,by rwa [Cursor.after_append]⟩
        have hlt := hmore m hm
        have hor := hhi m hm
        omega
      have hdone : (next c).isSome = true → lo ≤ rounds →
          ∃ n w rest, lo ≤ rounds + n ∧ (∀ m, hi = some m → n = 0 ∨ rounds + n ≤ m) ∧
            c.ahead = w ++ rest ∧ f.times n c.passed w rest ∧
              (next (c.after w)).isSome = true := fun hnext hlo =>
        ⟨0,[],c.ahead,hlo,fun _ _ => Or.inl rfl,rfl,Form.times_zero_iff.mpr rfl,hnext⟩
      rw [greedily] at hr
      split at hr
      case isTrue hforced =>
          exact hround last (fun m hm => Nat.lt_of_lt_of_le hforced (hbounds m hm)) hr
      case isFalse hfree =>
          split at hr
          case isFalse => exact hdone hr (Nat.not_lt.mp hfree)
          case isTrue hmore =>
              rw [Bool.and_eq_true] at hmore
              split at hr
              · rename_i d hd
                exact hround _ (mayRepeat_iff.mp hmore.1) (by rw [hd]; rfl)
              · exact hdone hr (Nat.not_lt.mp hfree)

/-- Greedy repetition finds rounds of its body if there are any. Rounds beyond those that it has
to make are passed over where they take nothing, since no free round may start where the one
before it has started. -/
theorem greedily_of_times (h : Takes step f) (hn : next.Heedless) {n fuel rounds : Nat}
    {last : Option Nat} {w rest : List Char} (hahead : c.ahead = w ++ rest)
    (hf : f.times n c.passed w rest) (hnext : (next (c.after w)).isSome = true)
    (hlo : lo ≤ rounds + n) (hhi : ∀ m, hi = some m → rounds + n ≤ m)
    (hfuel : lo - rounds + c.ahead.length < fuel) (hlast : ∀ p, last = some p → p < c.place) :
    (greedily step lo hi next fuel rounds last c).isSome = true := by
  induction n generalizing c fuel rounds last w with
  | zero =>
      cases Form.times_zero_iff.mp hf
      obtain ⟨fuel,rfl⟩ : ∃ n, fuel = n + 1 := Nat.exists_eq_add_one.mpr (Nat.zero_lt_of_lt hfuel)
      rw [greedily,if_neg (by omega)]
      split
      · split
        · rfl
        · exact hnext
      · exact hnext
  | succ n ih =>
      obtain ⟨u,v,rfl,hu,hv⟩ := hf
      rw [List.append_assoc] at hahead
      rw [Cursor.after_append] at hnext
      obtain ⟨fuel,rfl⟩ : ∃ n, fuel = n + 1 := Nat.exists_eq_add_one.mpr (Nat.zero_lt_of_lt hfuel)
      have hleft : (c.after u).ahead = v ++ rest := Cursor.ahead_after hahead
      have hlen : c.ahead.length = u.length + (c.after u).ahead.length := by
        rw [hahead,hleft,List.length_append]
      have hround : ∀ last', lo - (rounds + 1) + (c.after u).ahead.length < fuel →
          (∀ p, last' = some p → p < (c.after u).place) →
          (step (greedily step lo hi next fuel (rounds + 1) last') c).isSome = true :=
        fun last' hfuel hlast => (h _ (h.heedless_greedily hn fuel (rounds + 1) last') c).mpr
          ⟨u,v ++ rest,hahead,hu,ih hleft hv hnext (by omega)
            (fun m hm => by have := hhi m hm; omega) hfuel hlast⟩
      by_cases hforced : rounds < lo
      · rw [greedily,if_pos hforced]
        refine hround last (by omega) fun p hp => ?_
        exact Nat.lt_of_lt_of_le (hlast p hp) (Nat.le_add_right _ _)
      · cases u with
        | nil =>
            exact ih (by simpa using hahead) hv hnext (by omega)
              (fun m hm => by have := hhi m hm; omega) hfuel hlast
        | cons x u =>
            have hmore : (mayRepeat hi rounds && last != some c.place) = true := by
              rw [Bool.and_eq_true,mayRepeat_iff,bne_iff_ne]
              exact ⟨fun m hm => by have := hhi m hm; omega,
                fun hp => Nat.lt_irrefl _ (hlast _ hp)⟩
            rw [List.length_cons] at hlen
            have hsome := hround (some c.place) (by omega) (by
              rintro p ⟨⟩
              simp [Cursor.after])
            rw [greedily,if_neg hforced,if_pos hmore]
            split
            · rfl
            · rename_i hnone
              rw [hnone] at hsome
              cases hsome

/-- Lazy repetition finds a match where greedy repetition does. -/
theorem isSome_lazily (h : Takes step f) (hn : next.Heedless) (fuel rounds : Nat)
    (last : Option Nat) (c : Cursor) : (lazily step lo hi next fuel rounds last c).isSome =
      (greedily step lo hi next fuel rounds last c).isSome := by
  induction fuel generalizing rounds last c with
  | zero => rfl
  | succ fuel ih =>
      have hround : ∀ last', (step (lazily step lo hi next fuel (rounds + 1) last') c).isSome =
          (step (greedily step lo hi next fuel (rounds + 1) last') c).isSome := by
        intro last'
        have hgreedily : Next.Heedless (greedily step lo hi next fuel (rounds + 1) last') :=
          h.heedless_greedily hn fuel (rounds + 1) last'
        refine h.congr (fun d e hde => ?_) hgreedily (fun d => ih _ _ d) c
        rw [ih,ih,hgreedily d e hde]
      rw [lazily,greedily]
      split
      · exact hround last
      · have hfree := hround (some c.place)
        cases next c with
        | some d => cases step (greedily step lo hi next fuel (rounds + 1) (some c.place)) c <;>
            cases mayRepeat hi rounds && last != some c.place <;> rfl
        | none =>
            by_cases hmore : (mayRepeat hi rounds && last != some c.place) = true
            · dsimp only
              rw [if_pos hmore,if_pos hmore,hfree]
              cases step (greedily step lo hi next fuel (rounds + 1) (some c.place)) c <;> rfl
            · dsimp only
              rw [if_neg hmore,if_neg hmore]

/-- A repetition that keeps no match takes its body as many times as it may. -/
theorem repeated (h : Takes step f) (hbounds : ∀ m, hi = some m → lo ≤ m) :
    Takes (fun next c => greedily step lo hi next (repeatFuel lo c) 0 none c)
      (fun passed w rest => ∃ n, lo ≤ n ∧ (∀ m, hi = some m → n ≤ m) ∧
        f.times n passed w rest) := by
  intro next hn c
  constructor
  · intro hr
    obtain ⟨n,w,rest,hlo,hhi,hw,hf,hnext⟩ := h.exists_of_greedily hn hbounds hr
    rw [Nat.zero_add] at hlo
    refine ⟨w,rest,hw,⟨n,hlo,fun m hm => ?_,hf⟩,hnext⟩
    have hor := hhi m hm
    omega
  · rintro ⟨w,rest,hw,⟨n,hlo,hhi,hf⟩,hnext⟩
    refine h.greedily_of_times hn hw hf hnext (by omega) (fun m hm => ?_) ?_ nofun
    · rw [Nat.zero_add]
      exact hhi m hm
    · rw [repeatFuel]
      omega


end

/-! ## Groups, looks and alternatives -/

theorem group (h : Takes step f) (i : Nat) :
    Takes (fun next c => step (fun d => next (d.stopGroup i)) (c.startGroup i)) f := by
  intro next hn c
  have hstop : Next.Heedless fun d => next (d.stopGroup i) := fun d e hde =>
    hn _ _ ⟨hde.place,hde.passed,hde.ahead⟩
  refine (h _ hstop _).trans (exists_congr fun w => exists_congr fun rest => ?_)
  have hsame : (next (((c.startGroup i).after w).stopGroup i)).isSome = (next (c.after w)).isSome :=
    hn _ _ ⟨rfl,rfl,rfl⟩
  simp only [hsame]
  exact Iff.rfl

theorem either (h : Takes step f) (h' : Takes step' g) :
    Takes (fun next c => match step next c with
      | some d => some d
      | none => step' next c) (fun passed w rest => f passed w rest ∨ g passed w rest) := by
  intro next hn c
  have hor : (match step next c with
      | some d => some d
      | none => step' next c).isSome = true ↔
        (step next c).isSome = true ∨ (step' next c).isSome = true := by
    cases step next c <;> simp
  rw [hor,h next hn,h' next hn]
  constructor
  · rintro (⟨w,rest,hw,hf,hnext⟩ | ⟨w,rest,hw,hg,hnext⟩)
    · exact ⟨w,rest,hw,Or.inl hf,hnext⟩
    · exact ⟨w,rest,hw,Or.inr hg,hnext⟩
  · rintro ⟨w,rest,hw,hf | hg,hnext⟩
    · exact Or.inl ⟨w,rest,hw,hf,hnext⟩
    · exact Or.inr ⟨w,rest,hw,hg,hnext⟩

/-- What a look can see: texts of its body ahead, or from some characters back. -/
theorem exists_start_iff (h : Takes step f) (behind : Bool) (width : Nat) (c : Cursor) :
    ((if behind then c.back? width else some c).bind (step some)).isSome = true ↔
      ∃ back before w after, c.passed = back ++ before ∧
        back.length = (if behind then width else 0) ∧
        back.reverse ++ c.ahead = w ++ after ∧ f before w after := by
  have hseen : ∀ d, (step some d).isSome = true ↔
      ∃ w after, d.ahead = w ++ after ∧ f d.passed w after := by
    intro d
    rw [h some heedless_some d]
    simp only [Option.isSome_some,and_true]
  cases behind with
  | false =>
      simp only [Bool.false_eq_true,if_false,Option.bind_some,hseen]
      constructor
      · rintro ⟨w,after,hw,hf⟩
        exact ⟨[],c.passed,w,after,rfl,rfl,hw,hf⟩
      · rintro ⟨back,before,w,after,hpassed,hback,hw,hf⟩
        cases List.eq_nil_of_length_eq_zero hback
        exact ⟨w,after,hw,(by simpa using hpassed) ▸ hf⟩
  | true =>
      simp only [if_true]
      constructor
      · intro hsome
        obtain ⟨d,hd⟩ := Option.isSome_iff_exists.mp hsome
        obtain ⟨start,hstart,hstep⟩ := Option.bind_eq_some_iff.mp hd
        obtain ⟨back,before,hpassed,hback,rfl⟩ := Cursor.back?_eq_some_iff.mp hstart
        obtain ⟨w,after,hw,hf⟩ := (hseen _).mp (Option.isSome_of_eq_some hstep)
        exact ⟨back,before,w,after,hpassed,hback,hw,hf⟩
      · rintro ⟨back,before,w,after,hpassed,hback,hw,hf⟩
        rw [Cursor.back?_eq_some_iff.mpr ⟨back,before,hpassed,hback,rfl⟩,Option.bind_some,hseen]
        exact ⟨w,after,hw,hf⟩

theorem look (h : Takes step f) (behind positive : Bool) (width : Nat) :
    Takes (fun next c =>
      match (if behind then c.back? width else some c).bind (step some), positive with
      | some d, true => next { c with starts := d.starts, stops := d.stops }
      | some _, false => none
      | none, true => none
      | none, false => next c)
      (.place fun passed rest => (∃ back before w after, passed = back ++ before ∧
        back.length = (if behind then width else 0) ∧
        back.reverse ++ rest = w ++ after ∧ f before w after) ↔ positive = true) := by
  intro next hn c
  have hseen := h.exists_start_iff behind width c
  have hstay : ∀ starts stops, (next { c with starts := starts, stops := stops }).isSome =
      (next c).isSome := fun _ _ => hn _ _ ⟨rfl,rfl,rfl⟩
  dsimp only
  generalize (if behind then c.back? width else some c).bind (step some) = found at hseen ⊢
  have hplace : (match found, positive with
      | some d, true => next { c with starts := d.starts, stops := d.stops }
      | some _, false => none
      | none, true => none
      | none, false => next c).isSome = true ↔
        (found.isSome = true ↔ positive = true) ∧ (next c).isSome = true := by
    cases found <;> cases positive <;> simp [hstay]
  rw [hplace,hseen]
  constructor
  · rintro ⟨hp,hnext⟩
    exact ⟨[],c.ahead,rfl,⟨rfl,hp⟩,hnext⟩
  · rintro ⟨w,rest,hw,⟨rfl,hp⟩,hnext⟩
    rw [List.nil_append] at hw
    exact ⟨hw ▸ hp,hnext⟩

end Takes

/-! ## The search is complete -/

theorem bounds_of_isPlain {greed : Greed} {lo : Nat} {hi : Option Nat} {body : List Node}
    (h : (Node.repeated greed lo hi body).isPlain = true) :
    (∀ m, hi = some m → lo ≤ m) ∧ rowPlain body = true := by
  simp only [Node.isPlain,Bool.and_eq_true,Option.all_eq_true,decide_eq_true_eq] at h
  exact ⟨h.1.2,h.2⟩

mutual
/-- A node takes the texts of its form. -/
theorem Node.takes : ∀ n : Node, n.isPlain = true → Takes n.run n.form
  | .one o k, _ => .one (k.contains o)
  | .any o, _ => .one fun x => o.dotAll || x != '\n'
  | .anchor o a, _ => .place (a.holds o) fun c => by cases a <;> exact Iff.rfl
  | .group none body, h => takes_row body h
  | .group (some i) body, h => (takes_row body h).group i
  | .branch alternatives, h => takes_branch alternatives h
  | .repeated .greedy lo hi body, h =>
      (takes_row body (bounds_of_isPlain h).2).repeated (bounds_of_isPlain h).1
  | .repeated .lazy lo hi body, h => by
      obtain ⟨hbounds,hbody⟩ := bounds_of_isPlain h
      have hrow := takes_row body hbody
      intro next hn c
      refine Iff.trans ?_ (hrow.repeated hbounds next hn c)
      exact Bool.eq_iff_iff.mp (hrow.isSome_lazily hn _ _ _ _)
  | .look behind positive body, h => (takes_row body h).look behind positive (rowWidth body).1

theorem takes_row : ∀ body : List Node, rowPlain body = true → Takes (runRow body) (rowForm body)
  | [], _ => .place (fun _ => true) fun _ => iff_of_true rfl trivial
  | n :: rest, h => (n.takes (Bool.and_eq_true_iff.mp h).1).followed
      (takes_row rest (Bool.and_eq_true_iff.mp h).2)

theorem takes_branch : ∀ alternatives : List (List Node), branchPlain alternatives = true →
    Takes (runFirst alternatives) (branchForm alternatives)
  | [], _ => fun _ _ _ => iff_of_false nofun fun ⟨_,_,_,h,_⟩ => h
  | body :: rest, h => (takes_row body (Bool.and_eq_true_iff.mp h).1).either
      (takes_branch rest (Bool.and_eq_true_iff.mp h).2)
end

/-- A text matches as a whole if the form of the pattern takes all of it. -/
theorem Regex.matchesAll_iff {p : Regex} (h : rowPlain p.nodes = true) (s : List Char) :
    p.matchesAll s = true ↔ rowForm p.nodes [] s [] := by
  have hend : Next.Heedless fun d => if d.ahead.isEmpty then some d else none := by
    intro c d hcd
    simp only [hcd.ahead]
    split <;> rfl
  rw [matchesAll,takes_row p.nodes h _ hend]
  constructor
  · rintro ⟨w,rest,hw,hform,hnext⟩
    have hrest : rest = [] := by
      rw [Cursor.ahead_after hw] at hnext
      cases rest with
      | nil => rfl
      | cons x rest => cases hnext
    subst hrest
    rw [List.append_nil] at hw
    subst hw
    exact hform
  · intro hform
    have hw : (Cursor.ofText s).ahead = s ++ [] := (List.append_nil s).symm
    refine ⟨s,[],hw,hform,?_⟩
    rw [Cursor.ahead_after hw]
    rfl

end Vetting.Pattern
