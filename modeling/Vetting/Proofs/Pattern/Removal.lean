import Vetting.Pattern.Match
import Vetting.Proofs.Pattern.Reading

/-!
# Taking characters out

A class alone is a pattern of one character. Replacing all its matches with nothing goes from
one character of the class to the next, and leaves the others in their order.
-/
namespace Vetting.Pattern

/-- The pattern of one class. -/
def Regex.ofClass (K : CharClass) : Regex := ⟨[.one .plain K],0,[]⟩

/-- The pattern of one class and a word behind it. -/
def Regex.ofClassBefore (K : CharClass) (w : List Char) : Regex :=
  ⟨.one .plain K :: w.map fun c => .one .plain (.single c.toNat),0,[]⟩

/-! ## Reading a class -/

section
variable {K : CharClass} {t w : List Char} {f : Fault}

theorem parse_class (h : CharClass.read (tokens t) = .ok (K,[])) :
    Regex.parse ('[' :: t) = .ok (.ofClass K) := by
  have ht : tokens ('[' :: t) = .plain '[' :: tokens t := tokens_cons (by decide) t
  have hrow : ∀ fuel, (row (fuel + 2) none true []).run (.start .plain (tokens ('[' :: t))) =
      .ok ([.one .plain K],.start .plain []) := fun fuel => by
    rw [row_class ht rfl h]
    exact row_nil rfl
  exact parse_run (by omega) hrow rfl rfl

theorem parse_class_error (h : CharClass.read (tokens t) = .error f) :
    Regex.parse ('[' :: t) = .error f := by
  have ht : tokens ('[' :: t) = .plain '[' :: tokens t := tokens_cons (by decide) t
  rw [Regex.parse]
  dsimp only
  rw [alternatives,StateT.run_bind,row_class_error ht rfl h]
  rfl

theorem parse_classBefore (h : CharClass.read (tokens t) = .ok (K,w.map .plain))
    (hlen : w.length ≤ (tokens t).length) (hw : ∀ c ∈ w, isLiteral c = true) :
    Regex.parse ('[' :: t) = .ok (.ofClassBefore K w) := by
  have ht : tokens ('[' :: t) = .plain '[' :: tokens t := tokens_cons (by decide) t
  have hrow : ∀ fuel, (row (fuel + (w.length + 2)) none true []).run
      (.start .plain (tokens ('[' :: t))) =
        .ok (.one .plain K :: w.map fun c => .one .plain (.single c.toNat),.start .plain []) :=
      fun fuel => by
    have hword : (Scan.start .plain (w.map .plain)).rest = w.map .plain ++ [] :=
      (List.append_nil _).symm
    rw [show fuel + (w.length + 2) = fuel + 1 + w.length + 1 by omega,row_class ht rfl h]
    refine (row_word (fuel + 1) hword hw rfl).trans ?_
    refine Eq.trans (row_nil rfl) ?_
    rw [List.reverse_append,List.reverse_reverse]
    rfl
  have hlook : ∀ w : List Char,
      rowLookable (w.map fun c => .one .plain (.single c.toNat)) = true := by
    intro w
    induction w with
    | nil => rfl
    | cons c w ih => exact ih
  have hfinish : finish (.one .plain K :: w.map fun c => .one .plain (.single c.toNat))
      (.start .plain []) = .ok (.ofClassBefore K w) := by
    rw [finish,rowLookable,hlook]
    rfl
  exact parse_run (by rw [ht,List.length_cons]; omega) hrow rfl hfinish

end

/-! ## Replacing it -/

section
variable {K : CharClass} {x : Char} {place fuel : Nat} {passed ahead : List Char} {moving : Bool}

theorem matchAt_cons :
    (Regex.ofClass K).matchAt moving ⟨place,passed,x :: ahead,#[],#[]⟩ =
      if K.contains .plain x then some ⟨place + 1,x :: passed,ahead,#[],#[]⟩ else none := by
  rw [Regex.matchAt,Regex.ofClass,runRow,Node.run,Cursor.step?]
  dsimp only
  cases K.contains .plain x with
  | false => rfl
  | true => simp [runRow]

/-- Up to the first match there is nothing of the class. -/
theorem find?_ofClass : match (Regex.ofClass K).find? moving place passed ahead with
    | none => ∀ y ∈ ahead, K.contains .plain y = false
    | some (gap,d) => (∀ y ∈ gap, K.contains .plain y = false) ∧
        ∃ x, K.contains .plain x = true ∧ ahead = gap ++ x :: d.ahead := by
  induction ahead generalizing moving place passed with
  | nil => exact nofun
  | cons x rest ih =>
      rw [Regex.find?,matchAt_cons]
      cases hx : K.contains .plain x with
      | true => exact ⟨nofun,x,hx,rfl⟩
      | false =>
          have hrest := @ih (place + 1) (x :: passed) false
          rw [if_neg Bool.false_ne_true]
          dsimp only
          revert hrest
          cases (Regex.ofClass K).find? false (place + 1) (x :: passed) rest with
          | none => exact fun h => List.forall_mem_cons.mpr ⟨hx,h⟩
          | some r =>
              rintro ⟨hgap,y,hy,hrest⟩
              exact ⟨List.forall_mem_cons.mpr ⟨hx,hgap⟩,y,hy,congrArg (x :: ·) hrest⟩

/-- The gaps between the matches and the end are what is not of the class. -/
theorem findAll_ofClass (h : ahead.length < fuel) :
    ((Regex.ofClass K).findAll none fuel moving place passed ahead).1.flatMap (·.gap) ++
        ((Regex.ofClass K).findAll none fuel moving place passed ahead).2 =
      ahead.filter (!K.contains .plain ·) := by
  induction fuel generalizing moving place passed ahead with
  | zero => exact absurd h (Nat.not_lt_zero _)
  | succ fuel ih =>
      have hfind := @find?_ofClass K place passed ahead moving
      have hkeep : ∀ {gap : List Char}, (∀ y ∈ gap, K.contains .plain y = false) →
          gap.filter (!K.contains .plain ·) = gap := fun hgap =>
        List.filter_eq_self.mpr fun y hy => by rw [hgap y hy]; rfl
      rw [Regex.findAll,if_neg nofun]
      revert hfind
      cases (Regex.ofClass K).find? moving place passed ahead with
      | none => exact fun hnone => (hkeep hnone).symm
      | some r =>
          rintro ⟨hgap,x,hx,hahead⟩
          have hless : r.2.ahead.length < fuel := by
            rw [hahead,List.length_append,List.length_cons] at h
            omega
          rw [hahead,List.filter_append,hkeep hgap,List.filter_cons_of_neg (by simp [hx]),
            ← ih hless,← List.append_assoc]
          rfl

/-- Replacing every match with nothing leaves what is not of the class. -/
theorem replace_ofClass (s : List Char) : (Regex.ofClass K).replace none (fun _ => []) s =
    s.filter (!K.contains .plain ·) := by
  rw [← @findAll_ofClass K 0 (2 * s.length + 2) [] s false (by omega)]
  simp only [Regex.replace,List.append_nil]

/-- A single character is too little for a class and a word behind it. -/
theorem replace_ofClassBefore {w : List Char} (hw : w ≠ []) (x : Char) :
    (Regex.ofClassBefore K w).replace none (fun _ => []) [x] = [x] := by
  obtain ⟨c,w,rfl⟩ := List.exists_cons_of_ne_nil hw
  have hend : ∀ {moving : Bool} {place : Nat} {passed : List Char},
      (Regex.ofClassBefore K (c :: w)).matchAt moving ⟨place,passed,[],#[],#[]⟩ = none := rfl
  have hfirst : (Regex.ofClassBefore K (c :: w)).matchAt false ⟨0,[],[x],#[],#[]⟩ = none := by
    rw [Regex.matchAt,Regex.ofClassBefore,runRow,Node.run,Cursor.step?]
    dsimp only
    cases K.contains .plain x <;> rfl
  have hfind : (Regex.ofClassBefore K (c :: w)).find? false 0 [] [x] = none := by
    rw [Regex.find?,hfirst,Regex.find?,hend]
    rfl
  have hlimit : ¬ (none : Option Nat) = some 0 := by simp
  rw [Regex.replace,Regex.findAll,if_neg hlimit,hfind]
  rfl

end
end Vetting.Pattern
