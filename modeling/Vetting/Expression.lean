import Vetting.Text.Blank
import Vetting.Text.Split

/-!
# Rule expressions

An expression is a row of alternatives parted by bars, an alternative a row of steps
parted by semicolons, and a step a name with arguments, parted by commas. Nothing
can be escaped. A name is trimmed, arguments are kept as they stand; an alternative
of blanks only is dropped, while a step without a name stays and does nothing.
-/
namespace Vetting
open Text

structure Step where
  name : List Char
  args : List (List Char)
  deriving DecidableEq, Repr

abbrev Alternative := List Step

def Step.isIdle (s : Step) : Bool := s.name.isEmpty

def Step.parse (s : List Char) : Step :=
  match split ',' s with
  | [] => ⟨[], []⟩
  | name :: args => ⟨trim name, args⟩

def Step.render (s : Step) : List Char := join ',' (s.name :: s.args)

def isBlankText (s : List Char) : Bool := s.all isBlank

theorem isBlankText_append (s t : List Char) :
    isBlankText (s ++ t) = (isBlankText s && isBlankText t) := by
  simp [isBlankText]

namespace Expression

def parseAlternative (s : List Char) : Alternative := (split ';' s).map Step.parse

def segments (s : List Char) : List (List Char) :=
  (split '|' s).filter fun g => !isBlankText g

def parse (s : List Char) : List Alternative := (segments s).map parseAlternative

/-- An alternative that is read by itself is read as the same alternative. -/
theorem parse_segment {s g : List Char} (h : g ∈ segments s) :
    parse g = [parseAlternative g] := by
  rw [segments,List.mem_filter] at h
  rw [parse,segments,split_of_not_mem (not_mem_of_mem_split h.1),List.filter_cons,if_pos h.2]
  rfl

/-- What comes before the first bar of an expression, and what comes after the last one. -/
def firstSegment (s : List Char) : List Char := (split '|' s).headD []

def lastSegment (s : List Char) : List Char := (split '|' s).getLastD []

/-- A bar puts the alternatives of two expressions one after the other. -/
theorem parse_append_bar (s t : List Char) : parse (s ++ '|' :: t) = parse s ++ parse t := by
  rw [parse,segments,split_append_separator,List.filter_append,List.map_append]
  rfl

theorem parse_eq_nil_iff {s : List Char} : parse s = [] ↔ segments s = [] := by
  rw [parse,List.map_eq_nil_iff]

/-- The alternatives of expressions with bars between them are those of all. -/
theorem parse_join (es : List (List Char)) : parse (join '|' es) = es.flatMap parse := by
  induction es with
  | nil => rfl
  | cons e rest ih =>
      cases rest with
      | nil => simp [join]
      | cons next more =>
          have hj : join '|' (e :: next :: more) = e ++ '|' :: join '|' (next :: more) := rfl
          rw [hj,parse_append_bar,ih]
          rfl

theorem parseAlternative_append (s t : List Char) :
    parseAlternative (s ++ ';' :: t) = parseAlternative s ++ parseAlternative t := by
  rw [parseAlternative,split_append_separator,List.map_append]
  rfl

/-- A semicolon joins the last alternative of an expression and the first one of another,
if neither is blank. -/
theorem parse_append_semicolon {s t : List Char} (hs : isBlankText (lastSegment s) = false)
    (ht : isBlankText (firstSegment t) = false) :
    ∃ as a b bs, parse s = as ++ [a] ∧ parse t = b :: bs ∧
      parse (s ++ ';' :: t) = as ++ (a ++ b) :: bs := by
  obtain ⟨xs,x,hx⟩ : ∃ xs x, split '|' s = xs ++ [x] :=
    ⟨_,_,(List.dropLast_concat_getLast (split_ne_nil '|' s)).symm⟩
  obtain ⟨y,ys,hy⟩ := List.exists_cons_of_ne_nil (split_ne_nil '|' t)
  have hl : lastSegment s = x := by simp [lastSegment,hx]
  have hf : firstSegment t = y := by simp [firstSegment,hy]
  rw [hl] at hs
  rw [hf] at ht
  -- The semicolon belongs to the piece of the second text.
  have hy' : split '|' (';' :: t) = (';' :: y) :: ys := by
    rw [split,if_neg (by decide),hy]
  have hb : isBlankText (x ++ ';' :: y) = false := by
    rw [isBlankText_append,hs,Bool.false_and]
  refine ⟨(xs.filter fun g => !isBlankText g).map parseAlternative,parseAlternative x,
    parseAlternative y,(ys.filter fun g => !isBlankText g).map parseAlternative,?_,?_,?_⟩
  · simp [parse,segments,hx,hs]
  · simp [parse,segments,hy,ht]
  · rw [← parseAlternative_append]
    simp [parse,segments,split_append hx hy',hb]

def renderAlternative (a : Alternative) : List Char := join ';' (a.map Step.render)

def render (e : List Alternative) : List Char := join '|' (e.map renderAlternative)

end Expression

end Vetting
