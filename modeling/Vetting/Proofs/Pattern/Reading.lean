import Vetting.Pattern.Parse

/-!
# Reading a row of nodes

A row is read one node after the other, and the next few characters settle what is read. So a
pattern is read by going through it once, with one equation for each kind of place in it. White
space counts here: the patterns are not verbose.
-/
namespace Vetting.Pattern

section
variable {α : Type} {ts rest : List Token} {K : CharClass} {s s' : Scan} {fuel : Nat}
  {own : Option Options} {first : Bool} {done : List Node} {c : Char} {n : Node} {f : Fault}

/-! ## Tokens -/

theorem tokens_cons (h : c ≠ '\\') (s : List Char) : tokens (c :: s) = .plain c :: tokens s :=
  tokens.eq_4 c s (fun hc _ => h hc) (fun _ _ hc _ => h hc)

theorem tokens_eq_map {s : List Char} (hs : '\\' ∉ s) : tokens s = s.map .plain := by
  induction s with
  | nil => rfl
  | cons x s ih =>
      obtain ⟨hx,hs⟩ := not_or.mp (mt List.mem_cons.mpr hs)
      rw [tokens_cons (Ne.symm hx),ih hs,List.map_cons]

/-! ## What comes next -/

theorem run_get_bind (g : Scan → Parse α) : (get >>= g).run s = (g s).run s := rfl

theorem skip_of_ne (h : s.rest.head? ≠ some (.plain c)) : (skip c).run s = .ok (false,s) := by
  rw [skip,run_get_bind]
  cases hrest : s.rest with
  | nil => rfl
  | cons t ts =>
      have hne : t ≠ .plain c := by
        rintro rfl
        exact h (hrest ▸ rfl)
      dsimp only
      rw [if_neg hne]
      rfl

theorem skip_of_eq (h : s.rest = .plain c :: ts) :
    (skip c).run s = .ok (true,{ s with rest := ts }) := by
  rw [skip,run_get_bind,h]
  dsimp only
  rw [if_pos rfl]
  rfl

theorem ok_bind {α β : Type} (a : α) (g : α → Except Fault β) :
    (Except.ok a >>= g) = g a := rfl

theorem reading_run {reader : List Token → Except Fault (α × List Token)} {a : α}
    (h : reader s.rest = .ok (a,rest)) :
    (reading reader).run s = .ok (a,{ s with rest := rest }) := by
  rw [reading,run_get_bind,h]
  rfl

theorem reading_error {reader : List Token → Except Fault (α × List Token)}
    (h : reader s.rest = .error f) : (reading reader).run s = .error f := by
  rw [reading,run_get_bind,h]
  rfl

/-! ## One place -/

theorem row_nil (h : s.rest = []) :
    (row (fuel + 1) own first done).run s = .ok (done.reverse,s) := by
  rw [row,run_get_bind,h]
  rfl

theorem row_close (h : s.rest = .plain ')' :: ts) :
    (row (fuel + 1) own first done).run s = .ok (done.reverse,s) := by
  rw [row,run_get_bind,h]
  rfl

/-- Characters that stand for themselves. -/
def isLiteral (c : Char) : Bool := !"|)[.^$*+?\x7b(".toList.contains c

theorem row_literal (h : s.rest = .plain c :: ts) (hc : isLiteral c = true)
    (hv : (own.getD s.options).verbose = false) :
    (row (fuel + 1) own first done).run s =
      (row fuel own first (.one (own.getD s.options) (.single c.toNat) :: done)).run
        { s with rest := ts } := by
  have hne : ∀ d : Char, isLiteral d = false → c ≠ d := by
    rintro d hd rfl
    cases hc.symm.trans hd
  rw [row,run_get_bind,h]
  dsimp only
  rw [hv,if_neg (by simp [hne '|' rfl,hne ')' rfl])]
  simp only [hne '[' rfl,hne '.' rfl,hne '^' rfl,hne '$' rfl,hne '*' rfl,hne '+' rfl,
    hne '?' rfl,hne '\x7b' rfl,hne '(' rfl,Bool.false_and,Bool.false_eq_true,if_false]
  rfl

theorem row_word (fuel : Nat) {w : List Char} (h : s.rest = w.map .plain ++ ts)
    (hw : ∀ c ∈ w, isLiteral c = true) (hv : (own.getD s.options).verbose = false) :
    (row (fuel + w.length) own first done).run s =
      (row fuel own first ((w.map fun c => .one (own.getD s.options) (.single c.toNat)).reverse ++
        done)).run { s with rest := ts } := by
  induction w generalizing s done with
  | nil =>
      rw [show ts = s.rest from h.symm]
      rfl
  | cons c w ih =>
      obtain ⟨hc,hw⟩ := List.forall_mem_cons.mp hw
      rw [List.length_cons,← Nat.add_assoc]
      refine (row_literal h hc hv).trans ?_
      refine (ih (s := { s with rest := w.map .plain ++ ts }) rfl hw hv).trans ?_
      rw [List.map_cons,List.reverse_cons,List.append_assoc]
      rfl

/-- What a sign by itself stands for. -/
def sign? (o : Options) (c : Char) : Option Node :=
  if c = '.' then some (.any o)
  else if c = '^' then some (.anchor o .lineStart)
  else if c = '$' then some (.anchor o .lineEnd)
  else none

theorem row_sign (h : s.rest = .plain c :: ts) (hv : (own.getD s.options).verbose = false)
    (hc : sign? (own.getD s.options) c = some n) :
    (row (fuel + 1) own first done).run s =
      (row fuel own first (n :: done)).run { s with rest := ts } := by
  rw [row,run_get_bind,h]
  dsimp only
  rw [hv]
  rw [sign?] at hc
  split at hc
  · rename_i hpoint
    cases hc
    rw [hpoint,if_neg (by decide)]
    rfl
  split at hc
  · rename_i hstart
    cases hc
    rw [hstart,if_neg (by decide)]
    rfl
  split at hc
  · rename_i hend
    cases hc
    rw [hend,if_neg (by decide)]
    rfl
  · cases hc

/-- At an opening bracket a class is read. -/
theorem row_bracket (h : s.rest = .plain '[' :: ts)
    (hv : (own.getD s.options).verbose = false) :
    (row (fuel + 1) own first done).run s =
      (reading CharClass.read).run { s with rest := ts } >>= fun r =>
        (row fuel own first (.one (own.getD s.options) r.1 :: done)).run r.2 := by
  rw [row,run_get_bind,h]
  dsimp only
  rw [hv,if_neg (by decide)]
  rfl

theorem row_class (h : s.rest = .plain '[' :: ts) (hv : (own.getD s.options).verbose = false)
    (hread : CharClass.read ts = .ok (K,rest)) :
    (row (fuel + 1) own first done).run s =
      (row fuel own first (.one (own.getD s.options) K :: done)).run
        { s with rest := rest } := by
  have hclass : (reading CharClass.read).run { s with rest := ts } =
      .ok (K,{ s with rest := rest }) := reading_run hread
  rw [row_bracket h hv,hclass]
  rfl

theorem row_class_error (h : s.rest = .plain '[' :: ts)
    (hv : (own.getD s.options).verbose = false) (hread : CharClass.read ts = .error f) :
    (row (fuel + 1) own first done).run s = .error f := by
  have hclass : (reading CharClass.read).run { s with rest := ts } = .error f :=
    reading_error hread
  rw [row_bracket h hv,hclass]
  rfl

theorem row_escaped (h : s.rest = .escaped c :: ts)
    (hn : (escape (own.getD s.options) c).run { s with rest := ts } =
      .ok (n,{ s with rest := ts })) :
    (row (fuel + 1) own first done).run s =
      (row fuel own first (n :: done)).run { s with rest := ts } := by
  rw [row,run_get_bind,h]
  dsimp only
  show ((escape (own.getD s.options) c).run { s with rest := ts } >>= fun r =>
    (row fuel own first (r.1 :: done)).run r.2) = _
  rw [hn]
  rfl

/-! ## Repetitions -/

theorem repeatLast_run {lo : Nat} {hi : Option Nat} (hn : (n.isAnchor || n.isRepeated) = false)
    (hlazy : s.rest.head? ≠ some (.plain '?')) (hpossessive : s.rest.head? ≠ some (.plain '+')) :
    (repeatLast lo hi (n :: done)).run s = .ok (.repeated .greedy lo hi [n] :: done,s) := by
  rw [repeatLast,hn,if_neg Bool.false_ne_true,StateT.run_bind,skip_of_ne hlazy,ok_bind]
  dsimp only
  rw [if_neg Bool.false_ne_true,StateT.run_bind,skip_of_ne hpossessive]
  rfl

/-- The bounds that a sign behind a node stands for. -/
def repetition? (c : Char) : Option (Nat × Option Nat) :=
  if c = '*' then some (0,none)
  else if c = '+' then some (1,none)
  else if c = '?' then some (0,some 1)
  else none

theorem row_repetition {lo : Nat} {hi : Option Nat} (h : s.rest = .plain c :: ts)
    (hv : (own.getD s.options).verbose = false) (hc : repetition? c = some (lo,hi))
    (hn : (n.isAnchor || n.isRepeated) = false) (hlazy : ts.head? ≠ some (.plain '?'))
    (hpossessive : ts.head? ≠ some (.plain '+')) :
    (row (fuel + 1) own first (n :: done)).run s =
      (row fuel own first (.repeated .greedy lo hi [n] :: done)).run
        { s with rest := ts } := by
  have hrepeat : (repeatLast lo hi (n :: done)).run { s with rest := ts } =
      .ok (.repeated .greedy lo hi [n] :: done,{ s with rest := ts }) :=
    repeatLast_run hn hlazy hpossessive
  have hbranch : (row (fuel + 1) own first (n :: done)).run s =
      ((repeatLast lo hi (n :: done)).run { s with rest := ts } >>= fun r =>
        (row fuel own first r.1).run r.2) := by
    rw [row,run_get_bind,h]
    dsimp only
    rw [hv]
    rw [repetition?] at hc
    split at hc
    · rename_i hstar
      cases hc
      rw [hstar,if_neg (by decide)]
      rfl
    split at hc
    · rename_i hplus
      cases hc
      rw [hplus,if_neg (by decide)]
      rfl
    split at hc
    · rename_i hquestion
      cases hc
      rw [hquestion,if_neg (by decide)]
      rfl
    · cases hc
  rw [hbranch,hrepeat]
  rfl

theorem row_bounds {lo : Nat} {hi : Option Nat} (h : s.rest = .plain '\x7b' :: ts)
    (hv : (own.getD s.options).verbose = false)
    (hbounds : takeBounds ts = .ok (some (lo,hi),rest))
    (hn : (n.isAnchor || n.isRepeated) = false) (hlazy : rest.head? ≠ some (.plain '?'))
    (hpossessive : rest.head? ≠ some (.plain '+')) :
    (row (fuel + 1) own first (n :: done)).run s =
      (row fuel own first (.repeated .greedy lo hi [n] :: done)).run
        { s with rest := rest } := by
  have hread : (reading takeBounds).run { s with rest := ts } =
      .ok (some (lo,hi),{ s with rest := rest }) := reading_run hbounds
  rw [row,run_get_bind,h]
  dsimp only
  rw [hv,if_neg (by decide)]
  show ((reading takeBounds).run { s with rest := ts } >>= fun r => _) = _
  rw [hread]
  show ((repeatLast lo hi (n :: done)).run { s with rest := rest } >>= fun r =>
    (row fuel own first r.1).run r.2) = _
  rw [repeatLast_run hn hlazy hpossessive]
  rfl

/-! ## Parentheses -/

/-- A row with no bar behind it is the only one. -/
theorem alternatives_run {nodes : List Node}
    (h : (row (fuel + 1) own own.isNone []).run s = .ok (nodes,s'))
    (hbar : s'.rest.head? ≠ some (.plain '|')) :
    (alternatives (fuel + 2) own).run s = .ok (nodes,s') := by
  have hmore : (moreAlternatives (fuel + 1) own).run s' = .ok ([],s') := by
    rw [moreAlternatives,StateT.run_bind,skip_of_ne hbar]
    rfl
  rw [alternatives,StateT.run_bind,h,ok_bind,StateT.run_bind,hmore]
  rfl

theorem expectClose_run (h : s.rest = .plain ')' :: ts) :
    expectClose.run s = .ok ((),{ s with rest := ts }) := by
  rw [expectClose,StateT.run_bind,skip_of_eq h]
  rfl

/-- What can be referred to inside a look behind: the groups that are closed when it begins. -/
def Scan.look (s : Scan) (behind : Bool) : Option Nat :=
  if behind && s.horizon.isNone then some s.opened else s.horizon

theorem enterLook_run {behind : Bool} :
    (enterLook behind).run s = .ok (s.horizon,{ s with horizon := s.look behind }) := by
  rw [enterLook,run_get_bind,Scan.look]
  split <;> rfl

theorem row_look {behind positive : Bool} {body : List Node} {left : List Token}
    (h : s.rest = .plain '(' :: ts) (hv : (own.getD s.options).verbose = false)
    (ho : opening.run { s with rest := ts } = .ok (.look behind positive,{ s with rest := rest }))
    (hbody : (alternatives fuel (some (own.getD s.options))).run
      { s with rest := rest, horizon := s.look behind } = .ok (body,s'))
    (hclose : s'.rest = .plain ')' :: left) :
    (row (fuel + 1) own first done).run s =
      (row fuel own first (.look behind positive body :: done)).run
        { s' with rest := left, horizon := s.horizon } := by
  have henter : (enterLook behind).run { s with rest := rest } =
      .ok (s.horizon,{ s with rest := rest, horizon := s.look behind }) := enterLook_run
  have hleave : expectClose.run { s' with horizon := s.horizon } =
      .ok ((),{ s' with rest := left, horizon := s.horizon }) := expectClose_run hclose
  rw [row,run_get_bind,h]
  dsimp only
  rw [hv,if_neg (by decide)]
  show (opening.run { s with rest := ts } >>= fun r => _) = _
  rw [ho]
  show ((enterLook behind).run { s with rest := rest } >>= fun r => _) = _
  rw [henter]
  show ((alternatives fuel (some (own.getD s.options))).run
    { s with rest := rest, horizon := s.look behind } >>= fun r => _) = _
  rw [hbody]
  show (expectClose.run { s' with horizon := s.horizon } >>= fun r => _) = _
  rw [hleave]
  rfl

/-- A group without a name gets the next number. -/
theorem row_group {body : List Node} {left : List Token}
    (h : s.rest = .plain '(' :: ts) (hv : (own.getD s.options).verbose = false)
    (ho : opening.run { s with rest := ts } =
      .ok (.group true false none {} {},{ s with rest := rest }))
    (hbody : (alternatives fuel (some ((own.getD s.options).change {} {}))).run
      { s with rest := rest, opened := s.opened + 1 } = .ok (body,s'))
    (hclose : s'.rest = .plain ')' :: left) :
    (row (fuel + 1) own first done).run s =
      (row fuel own first (.group (some (s.opened + 1)) body :: done)).run
        { s' with rest := left, widths := (s.opened + 1,rowWidth body) :: s'.widths } := by
  rw [row,run_get_bind,h]
  dsimp only
  rw [hv,if_neg (by decide)]
  show (opening.run { s with rest := ts } >>= fun r => _) = _
  rw [ho]
  show ((alternatives fuel (some ((own.getD s.options).change {} {}))).run
    { s with rest := rest, opened := s.opened + 1 } >>= fun r => _) = _
  rw [hbody]
  show (expectClose.run s' >>= fun r => _) = _
  rw [expectClose_run hclose]
  rfl

/-! ## A whole pattern -/

/-- At the start of a pattern, before any group. -/
def Scan.start (o : Options) (ts : List Token) : Scan := ⟨ts,o,false,false,0,[],[],none,[]⟩

theorem parse_run {t : List Char} {nodes : List Node} {k : Nat} {p : Regex}
    (hk : k ≤ 4 * (tokens t).length + 3)
    (hrow : ∀ fuel, (row (fuel + k) none true []).run (.start .plain (tokens t)) =
      .ok (nodes,s)) (hend : s.rest = []) (hp : finish nodes s = .ok p) :
    Regex.parse t = .ok p := by
  obtain ⟨fuel,hfuel⟩ := Nat.exists_eq_add_of_le' hk
  obtain ⟨m,hm⟩ : ∃ m, fuel + k = m + 1 := ⟨4 * (tokens t).length + 2,by omega⟩
  have hlen : 4 * (tokens t).length + 4 = m + 2 := by omega
  have hrun : (alternatives (m + 2) none).run (.start .plain (tokens t)) = .ok (nodes,s) :=
    alternatives_run (hm ▸ hrow fuel) (by simp [hend])
  rw [Regex.parse,hlen]
  show ((alternatives (m + 2) none).run (.start .plain (tokens t)) >>= fun r =>
    finish r.1 r.2) = _
  rw [hrun]
  exact hp

/-- Options at the very start hold for the whole pattern. -/
theorem row_options {on : Letters} (h : s.rest = .plain '(' :: ts) (hv : s.options.verbose = false)
    (ho : opening.run { s with rest := ts } = .ok (.options on,{ s with rest := rest })) :
    (row (fuel + 1) none true []).run s =
      ((setOptions on).run { s with rest := rest } >>= fun r =>
        (row fuel none true []).run r.2) := by
  rw [row,run_get_bind,h]
  dsimp only
  rw [Option.getD_none,hv,if_neg (by decide)]
  show (opening.run { s with rest := ts } >>= fun r => _) = _
  rw [ho]
  rfl

/-- A pattern that begins with the sign for reading it without regard to case. -/
theorem parse_folded {t : List Char} {nodes : List Node} {k : Nat} {o : Options}
    (ho : o = { Options.plain with ignoreCase := true }) (hk : k ≤ 4 * (tokens t).length + 18)
    (hrow : ∀ fuel, (row (fuel + k) none true []).run (.start o (tokens t)) =
      .ok (nodes,.start o [])) (hlook : rowLookable nodes = true) :
    Regex.parse ("(?i)".toList ++ t) = .ok ⟨nodes,0,[]⟩ := by
  have htokens : tokens ("(?i)".toList ++ t) =
      .plain '(' :: .plain '?' :: .plain 'i' :: .plain ')' :: tokens t := by
    show tokens ('(' :: '?' :: 'i' :: ')' :: t) = _
    rw [tokens_cons (by decide),tokens_cons (by decide),tokens_cons (by decide),
      tokens_cons (by decide)]
  have hopening : opening.run
      (.start .plain (.plain '?' :: .plain 'i' :: .plain ')' :: tokens t)) =
        .ok (.options { ignoreCase := true },.start .plain (tokens t)) := rfl
  have hrun : ∀ fuel, (row (fuel + (k + 1)) none true []).run
      (.start .plain (tokens ("(?i)".toList ++ t))) = .ok (nodes,.start o []) := fun fuel => by
    subst ho
    rw [htokens]
    refine (row_options rfl rfl hopening).trans ?_
    exact hrow fuel
  have hfinish : finish nodes (.start o []) = .ok ⟨nodes,0,[]⟩ := by
    rw [finish,hlook,ho]
    rfl
  refine parse_run ?_ hrun rfl hfinish
  rw [htokens]
  simp only [List.length_cons]
  omega

end

end Vetting.Pattern
