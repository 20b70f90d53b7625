import Vetting.Pattern.Token
import Vetting.Yaml.Source

/-!
# Scalars

A scalar is written plainly, in quotes, or as a block of lines. Lines of plain and quoted
scalars are folded: one line end becomes a space, and of several the first is dropped.
Blocks keep their line ends or fold them, and a header says what becomes of the last
ones.

The functions here go on from a cursor inside a scalar, and give its text and the cursor
behind it. Their fuel is the number of characters left.
-/
namespace Vetting.Yaml

/-- How many characters are left, and one more. -/
def Cursor.fuel (c : Cursor) : Nat := c.rest.length + 1

/-- What a line end and the empty lines after it fold to. -/
def foldBreaks (first : Char) (others : List Char) : List Char :=
  if first != '\n' then first :: others
  else if others.isEmpty then [' ']
  else others

/-! ## Quoted scalars -/

/-- Ends of empty lines in a quoted scalar, and the indentation after them. -/
def quotedBreaks : Nat → Cursor → Except Trouble (List Char × Cursor)
  | 0, _ => .error .malformed
  | fuel + 1, c =>
      if c.meetsMark then .error .malformed
      else
        let d := c.skip fun x => x = ' ' || x = '\t'
        match d.takeBreak? with
        | none => .ok ([], d)
        | some (x, e) => (quotedBreaks fuel e).map fun r => (x :: r.1, r.2)

def quotedBlanks (c : Cursor) : Except Trouble (List Char × Cursor) :=
  let blanks := c.run fun x => x = ' ' || x = '\t'
  let d := c.forward blanks.length
  if d.rest.isEmpty then .error .malformed
  else match d.takeBreak? with
    | none => .ok (blanks, d)
    | some (x, e) => (quotedBreaks e.fuel e).map fun r => (foldBreaks x r.1, r.2)

def escaped? (c : Char) : Option Nat :=
  match c with
  | '0' => some 0
  | 'a' => some 7
  | 'b' => some 8
  | 't' => some 9
  | '\t' => some 9
  | 'n' => some 10
  | 'v' => some 11
  | 'f' => some 12
  | 'r' => some 13
  | 'e' => some 27
  | ' ' => some 32
  | '"' => some 34
  | '\\' => some 92
  | '/' => some 47
  | 'N' => some 0x85
  | '_' => some 0xA0
  | 'L' => some 0x2028
  | 'P' => some 0x2029
  | _ => none

def escapeWidth? (c : Char) : Option Nat :=
  match c with
  | 'x' => some 2
  | 'u' => some 4
  | 'U' => some 8
  | _ => none

def numbered (n : Nat) : Except Trouble Char :=
  if 0x80000000 ≤ n then .error (.fault .tooLarge)
  else if 0x110000 ≤ n then .error (.fault .badValue)
  else if n.isValidChar then .ok (Char.ofNat n)
  else .ok (Char.ofNat 0xFFFD)

def quotedEscape (c : Cursor) : Except Trouble (List Char × Cursor) :=
  match c.rest with
  | [] => .error .malformed
  | x :: rest =>
      match escaped? x, escapeWidth? x with
      | some n, _ => .ok ([Char.ofNat n], c.step)
      | none, some width =>
          let ds := rest.take width
          if ds.length = width ∧ ds.all Pattern.isHexDigit then
            (numbered (Pattern.ofHexDigits ds)).map fun y => ([y], c.forward (width + 1))
          else .error .malformed
      | none, none =>
          match c.takeBreak? with
          | some (_, d) => quotedBreaks d.fuel d
          | none => .error .malformed

/-- The text of a scalar in quotes, from behind the opening one. -/
def quotedText (double : Bool) : Nat → Cursor → Except Trouble (List Char × Cursor)
  | 0, _ => .error .malformed
  | fuel + 1, c =>
      let after (r : List Char × Cursor) : Except Trouble (List Char × Cursor) :=
        (quotedText double fuel r.2).map fun q => (r.1 ++ q.1, q.2)
      match c.rest with
      | [] => .error .malformed
      | '"' :: _ => if double then .ok ([], c.step) else after (['"'], c.step)
      | '\'' :: more =>
          if double then after (['\''], c.step)
          else if more.head? = some '\'' then after (['\''], c.forward 2)
          else .ok ([], c.step)
      | '\\' :: _ =>
          if double then (quotedEscape c.step).bind after else after (['\\'], c.step)
      | x :: _ =>
          if x = ' ' || x = '\t' || isBreak x then (quotedBlanks c).bind after
          else after ([x], c.step)

/-! ## Plain scalars -/

/-- Signs that have a meaning of their own inside brackets. -/
def isFlowSign (c : Char) : Bool :=
  c = ',' || c = '[' || c = ']' || c = '\x7b' || c = '\x7d'

/-- Whether a colon ends a plain scalar, by what follows it. -/
def isColonEnd (inFlow : Bool) (after : List Char) : Bool :=
  endsWord after || (inFlow && after.head?.any isFlowSign)

def plainWord (inFlow : Bool) : List Char → List Char
  | [] => []
  | c :: rest =>
      if endsWord (c :: rest) || (c = ':' && isColonEnd inFlow rest) ||
          (inFlow && (isFlowSign c || c = '?')) then []
      else c :: plainWord inFlow rest

/-- Ends of empty lines in a plain scalar, and the indentation after them; none if a mark
between documents follows. -/
def plainBreaks : Nat → Cursor → Option (List Char) × Cursor
  | 0, c => (none, c)
  | fuel + 1, c =>
      if c.meetsMark then (none, c)
      else
        let d := c.skipSpaces
        match d.takeBreak? with
        | none => (some [], d)
        | some (x, e) =>
            let r := plainBreaks fuel e
            (r.1.map (x :: ·), r.2)

/-- What parts two words of a plain scalar, and whether a line ends between them. -/
structure Gap where
  text : List Char
  after : Cursor
  crossed : Bool

def plainGap (c : Cursor) : Gap :=
  let spaces := c.run (· = ' ')
  let d := c.forward spaces.length
  match d.takeBreak? with
  | none => ⟨spaces, d, false⟩
  | some (x, e) =>
      match plainBreaks e.fuel e with
      | (none, f) => ⟨[], f, true⟩
      | (some others, f) => ⟨foldBreaks x others, f, true⟩

/-- The text of a plain scalar. `before` is what parts it from the words before, and the
gap that ends it is given with it. -/
def plainText (inFlow : Bool) (indent : Nat) : Nat → Gap → List Char × Gap
  | 0, before => ([], before)
  | fuel + 1, before =>
      let c := before.after
      let word := if c.next? = some '#' then [] else plainWord inFlow c.rest
      if word.isEmpty then ([], before)
      else
        let gap := plainGap (c.forward word.length)
        let text := before.text ++ word
        if gap.text.isEmpty || gap.after.next? = some '#' ||
            (!inFlow && gap.after.column < indent) then (text, gap)
        else
          let r := plainText inFlow indent fuel gap
          (text ++ r.1, r.2)

/-! ## Blocks -/

/-- What becomes of the line ends at the end of a block. -/
inductive Chomping where
  | clip | strip | keep
  deriving DecidableEq, Repr

def chomping? (c : Char) : Option Chomping :=
  match c with
  | '+' => some .keep
  | '-' => some .strip
  | _ => none

def indentation? (c : Char) : Option Nat :=
  if '0' ≤ c ∧ c ≤ '9' then some (c.toNat - 48) else none

/-- Reads the header of a block: how to chomp it and how far it is indented. -/
def blockHeader (c : Cursor) : Except Trouble (Chomping × Option Nat × Cursor) :=
  let (chomping, indent, d) :=
    match c.next?.bind chomping? with
    | some chomping =>
        match c.step.next?.bind indentation? with
        | some n => (chomping, some n, c.forward 2)
        | none => (chomping, none, c.step)
    | none =>
        match c.next?.bind indentation? with
        | some n =>
            match c.step.next?.bind chomping? with
            | some chomping => (chomping, some n, c.forward 2)
            | none => (.clip, some n, c.step)
        | none => (.clip, none, c)
  if indent = some 0 || !endsPlainly d.rest then .error .malformed
  else d.closeLine.map fun e => (chomping, indent, e)

/-- Empty lines in front of a block, and how far the deepest line there is indented. -/
def leadingBreaks : Nat → Nat → Cursor → List Char × Nat × Cursor
  | 0, deepest, c => ([], deepest, c)
  | fuel + 1, deepest, c =>
      let d := c.skipSpaces
      let deepest := max deepest d.column
      match d.takeBreak? with
      | none => ([], deepest, d)
      | some (x, e) =>
          let r := leadingBreaks fuel deepest e
          (x :: r.1, r.2)

/-- Goes into a line up to a column, as far as there are spaces. -/
def indentTo (column : Nat) (c : Cursor) : Cursor :=
  c.forward (min (c.run (· = ' ')).length (column - c.column))

def blockBreaks (indent : Nat) : Nat → Cursor → List Char × Cursor
  | 0, c => ([], c)
  | fuel + 1, c =>
      let d := indentTo indent c
      match d.takeBreak? with
      | none => ([], d)
      | some (x, e) =>
          let r := blockBreaks indent fuel e
          (x :: r.1, r.2)

def startsBlank (c : Cursor) : Bool := c.next? = some ' ' || c.next? = some '\t'

def breakText (b : Option (Char × Cursor)) : List Char := (b.map fun r => [r.1]).getD []

/-- The lines of a block: its text, its last line end, and the empty lines behind it. -/
def blockLines (folded : Bool) (indent : Nat) :
    Nat → List Char → Cursor → List Char × List Char × List Char × Cursor
  | 0, breaks, c => ([], [], breaks, c)
  | fuel + 1, breaks, c =>
      let line := c.run fun x => !isBreak x
      let d := c.forward line.length
      let ending := d.takeBreak?
      let (others, e) := blockBreaks indent fuel ((ending.map Prod.snd).getD d)
      let text := breaks ++ line
      if e.column = indent && !e.rest.isEmpty then
        let between :=
          if folded && breakText ending = ['\n'] && !startsBlank c && !startsBlank e then
            if others.isEmpty then [' '] else []
          else breakText ending
        let r := blockLines folded indent fuel others e
        (text ++ between ++ r.1, r.2)
      else (text, breakText ending, others, e)

/-- The text of a block in a collection that is indented so far, from behind its sign. -/
def blockText (folded : Bool) (outer : Nat) (c : Cursor) :
    Except Trouble (List Char × Cursor) := do
  let (chomping, given, d) ← blockHeader c
  let least := max 1 outer
  let (indent, breaks, e) := match given with
    | some n =>
        let r := blockBreaks (least + n - 1) d.fuel d
        (least + n - 1, r)
    | none =>
        let r := leadingBreaks d.fuel 0 d
        (max least r.2.1, r.1, r.2.2)
  let (text, last, others, f) :=
    if e.column = indent && !e.rest.isEmpty then blockLines folded indent e.fuel breaks e
    else ([], [], breaks, e)
  let tail := match chomping with
    | .strip => []
    | .clip => last
    | .keep => last ++ others
  .ok (text ++ tail, f)

end Vetting.Yaml
