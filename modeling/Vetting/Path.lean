import Vetting.Number.Reading

/-!
# Paths

A path names a place inside nested containers. It is read from text as a row of
keys: names are runs of characters other than points and brackets, and an index is
a number in brackets. Points, and brackets that enclose no number, only part names.
-/
namespace Vetting
open Number Text

/-- One step of a path. -/
inductive Key where
  | name (s : List Char)
  | index (n : Nat)
  deriving DecidableEq, Repr

namespace Path

def isSeparator (c : Char) : Bool := c = '.' || c = '[' || c = ']'

/-- Digits up to a closing bracket, and what follows the bracket. -/
def bracketed? (s : List Char) : Option (List Nat × List Char) :=
  match takeDigits s with
  | ([], _) => none
  | (ds, ']' :: rest) => some (ds, rest)
  | _ => none

theorem length_dropWhile_le (p : Char → Bool) (s : List Char) :
    (s.dropWhile p).length ≤ s.length := by
  induction s with
  | nil => simp
  | cons c rest ih =>
      simp only [List.dropWhile_cons]
      split
      · exact Nat.le_succ_of_le ih
      · exact Nat.le_refl _

theorem bracketed?_length {s rest : List Char} {ds : List Nat}
    (h : bracketed? s = some (ds, rest)) : rest.length < s.length := by
  unfold bracketed? takeDigits at h
  split at h
  · simp at h
  · rename_i heq
    simp only [Option.some.injEq,Prod.mk.injEq] at h
    simp only [Prod.mk.injEq] at heq
    have hle := length_dropWhile_le isDecimal s
    rw [heq.2,h.2] at hle
    simp only [List.length_cons] at hle
    omega
  · simp at h

/-- The keys of a path as written, an index as its digits. -/
def tokens : List Char → List (List Char ⊕ List Nat)
  | [] => []
  | '[' :: rest =>
      match _h : bracketed? rest with
      | some (ds, left) => .inr ds :: tokens left
      | none => tokens rest
  | c :: rest =>
      if isSeparator c then tokens rest
      else
        .inl (c :: rest.takeWhile fun d => !isSeparator d) ::
          tokens (rest.dropWhile fun d => !isSeparator d)
termination_by s => s.length
decreasing_by
  · have := bracketed?_length _h
    simp only [List.length_cons]
    omega
  · simp
  · simp
  · have := length_dropWhile_le (fun d => !isSeparator d) rest
    simp only [List.length_cons]
    omega

/-- The key of a token; an index beyond the digit limit has none. -/
def key? : List Char ⊕ List Nat → Option Key
  | .inl s => some (.name s)
  | .inr ds => if ds.length ≤ digitLimit then some (.index (ofDigits ds)) else none

def keys? (s : String) : Option (List Key) := (tokens s.toList).mapM key?

def renderKey : Key → List Char
  | .name s => '.' :: s
  | .index n => '[' :: decimalDigits n ++ [']']

def render (ks : List Key) : String := String.ofList (ks.flatMap renderKey)

end Path

end Vetting
