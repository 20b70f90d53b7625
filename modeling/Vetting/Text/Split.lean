/-!
# Splitting and joining

A text is cut at every occurrence of a separator, so that it always has at least one
piece; `join` puts the separator back. Replacement of a part and of nothing are two
cases: nothing is found before every character and at the end.
-/
namespace Vetting.Text

def split (separator : Char) : List Char → List (List Char)
  | [] => [[]]
  | c :: rest =>
      if c = separator then [] :: split separator rest
      else match split separator rest with
        | [] => [[c]]
        | piece :: pieces => (c :: piece) :: pieces

def join (separator : Char) : List (List Char) → List Char
  | [] => []
  | [piece] => piece
  | piece :: rest => piece ++ separator :: join separator rest

theorem split_ne_nil (separator : Char) (s : List Char) : split separator s ≠ [] := by
  cases s with
  | nil => simp [split]
  | cons c rest =>
      simp only [split]
      split
      · simp
      · split <;> simp

theorem join_split (separator : Char) (s : List Char) :
    join separator (split separator s) = s := by
  induction s with
  | nil => rfl
  | cons c rest ih =>
      simp only [split]
      split
      · rename_i hc
        cases hs : split separator rest with
        | nil => exact absurd hs (split_ne_nil separator rest)
        | cons piece pieces =>
            rw [hs] at ih
            simp [join,ih,hc]
      · cases hs : split separator rest with
        | nil => exact absurd hs (split_ne_nil separator rest)
        | cons piece pieces =>
            rw [hs] at ih
            cases pieces with
            | nil => simpa [join] using ih
            | cons next more =>
                simp only [join,List.cons_append] at ih ⊢
                rw [ih]

/-- A piece does not contain the separator. -/
theorem not_mem_of_mem_split {separator : Char} {s piece : List Char}
    (h : piece ∈ split separator s) : separator ∉ piece := by
  induction s generalizing piece with
  | nil =>
      rw [split,List.mem_singleton] at h
      simp [h]
  | cons c rest ih =>
      simp only [split] at h
      split at h
      · rcases List.mem_cons.mp h with rfl | h
        · simp
        · exact ih h
      · rename_i hc
        cases hs : split separator rest with
        | nil => exact absurd hs (split_ne_nil separator rest)
        | cons first pieces =>
            rw [hs] at h ih
            rcases List.mem_cons.mp h with rfl | h
            · have hf := ih List.mem_cons_self
              simp [Ne.symm hc,hf]
            · exact ih (List.mem_cons_of_mem _ h)

/-- Splitting brings in no characters. -/
theorem mem_of_mem_split {separator c : Char} {s piece : List Char}
    (h : piece ∈ split separator s) (hc : c ∈ piece) : c ∈ s := by
  induction s generalizing piece with
  | nil =>
      rw [split,List.mem_singleton] at h
      rw [h] at hc
      cases hc
  | cons d rest ih =>
      simp only [split] at h
      split at h
      · rcases List.mem_cons.mp h with rfl | h
        · cases hc
        · exact List.mem_cons_of_mem d (ih h hc)
      · cases hs : split separator rest with
        | nil => exact absurd hs (split_ne_nil separator rest)
        | cons first pieces =>
            rw [hs] at h ih
            rcases List.mem_cons.mp h with rfl | h
            · rcases List.mem_cons.mp hc with rfl | hc
              · exact List.mem_cons_self
              · exact List.mem_cons_of_mem d (ih List.mem_cons_self hc)
            · exact List.mem_cons_of_mem d (ih (List.mem_cons_of_mem _ h) hc)

theorem split_of_not_mem {separator : Char} {s : List Char} (h : separator ∉ s) :
    split separator s = [s] := by
  induction s with
  | nil => rfl
  | cons c rest ih =>
      rw [List.mem_cons,not_or] at h
      rw [split,if_neg (Ne.symm h.1),ih h.2]

/-- What stands around a separator is split by itself. -/
theorem split_append_separator (separator : Char) (s t : List Char) :
    split separator (s ++ separator :: t) = split separator s ++ split separator t := by
  induction s with
  | nil => simp [split]
  | cons c rest ih =>
      simp only [List.cons_append,split,ih]
      split
      · rfl
      · cases hs : split separator rest with
        | nil => exact absurd hs (split_ne_nil separator rest)
        | cons piece pieces => rfl

/-- Where no separator stands between two texts, their pieces there become one. -/
theorem split_append {separator : Char} {s t x y : List Char} {xs ys : List (List Char)}
    (hs : split separator s = xs ++ [x]) (ht : split separator t = y :: ys) :
    split separator (s ++ t) = xs ++ (x ++ y) :: ys := by
  induction s generalizing x xs with
  | nil =>
      have hx : xs = [] ∧ x = [] := by
        cases xs <;> simp_all [split]
      simp [hx,ht]
  | cons c rest ih =>
      simp only [split] at hs
      simp only [List.cons_append,split]
      split at hs
      · rename_i hc
        rw [if_pos hc]
        cases xs with
        | nil =>
            have hr : split separator rest = [] := (List.cons.inj hs).2
            exact absurd hr (split_ne_nil separator rest)
        | cons first more =>
            obtain ⟨rfl,hr⟩ := List.cons.inj hs
            rw [ih hr]
            rfl
      · rename_i hc
        rw [if_neg hc]
        cases hr : split separator rest with
        | nil => exact absurd hr (split_ne_nil separator rest)
        | cons piece pieces =>
            rw [hr] at hs
            cases xs with
            | nil =>
                obtain ⟨rfl,rfl⟩ := List.cons.inj hs
                have hrest : split separator rest = [] ++ [piece] := hr
                rw [ih hrest]
                rfl
            | cons first more =>
                obtain ⟨rfl,rfl⟩ := List.cons.inj hs
                have hrest : split separator rest = (piece :: more) ++ [x] := hr
                rw [ih hrest]
                rfl

/-- Pieces without the separator are found again. -/
theorem split_join {separator : Char} {pieces : List (List Char)} (hne : pieces ≠ [])
    (h : ∀ piece ∈ pieces, separator ∉ piece) :
    split separator (join separator pieces) = pieces := by
  induction pieces with
  | nil => exact absurd rfl hne
  | cons piece rest ih =>
      obtain ⟨hp,hrest⟩ := List.forall_mem_cons.mp h
      cases rest with
      | nil => exact split_of_not_mem hp
      | cons next more =>
          have hj : join separator (piece :: next :: more) =
              piece ++ separator :: join separator (next :: more) := rfl
          rw [hj,split_append_separator,split_of_not_mem hp,
            ih (List.cons_ne_nil next more) hrest]
          rfl

/-- Joining brings in no characters but the separator. -/
theorem not_mem_join {separator c : Char} {pieces : List (List Char)} (hc : c ≠ separator)
    (h : ∀ piece ∈ pieces, c ∉ piece) : c ∉ join separator pieces := by
  induction pieces with
  | nil => exact List.not_mem_nil
  | cons piece rest ih =>
      obtain ⟨hp,hrest⟩ := List.forall_mem_cons.mp h
      cases rest with
      | nil => exact hp
      | cons next more =>
          have hj : join separator (piece :: next :: more) =
              piece ++ separator :: join separator (next :: more) := rfl
          rw [hj,List.mem_append,List.mem_cons,not_or,not_or]
          exact ⟨hp,hc,ih hrest⟩

theorem join_eq_intercalate (separator : Char) (pieces : List (List Char)) :
    join separator pieces = [separator].intercalate pieces := by
  induction pieces with
  | nil => rfl
  | cons piece rest ih =>
      cases rest with
      | nil => simp [join]
      | cons next more => simp [join,ih]

def isPart (part : List Char) : List Char → Bool
  | [] => part.isEmpty
  | c :: rest => part.isPrefixOf (c :: rest) || isPart part rest

/-- Replaces each occurrence of a part that is not empty, from the left. -/
def replacePart (old new : List Char) : Nat → List Char → List Char
  | 0, s => s
  | _ + 1, [] => []
  | fuel + 1, c :: rest =>
      if old.isPrefixOf (c :: rest) then
        new ++ replacePart old new fuel ((c :: rest).drop old.length)
      else c :: replacePart old new fuel rest

def replaceAll (old new s : List Char) : List Char :=
  if old.isEmpty then new ++ s.flatMap fun c => c :: new
  else replacePart old new s.length s

end Vetting.Text
