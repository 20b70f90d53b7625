import Vetting.Fault

/-!
# Sources of documents

A document is read character by character from a cursor that knows its line and column.
Only printable characters are allowed; line ends of all kinds count as one, except the
two separators for lines and paragraphs, which stay what they are.
-/
namespace Vetting.Yaml

def isPrintable (c : Char) : Bool :=
  let n := c.toNat
  n = 9 || n = 10 || n = 13 || (32 ≤ n && n ≤ 0x7E) || n = 0x85 || (0xA0 ≤ n && n ≤ 0xFFFD) ||
    0x10000 ≤ n

/-- A text with the two characters of one line end, or the first of them, made the
second. -/
def unifyBreaks : List Char → List Char
  | '\r' :: '\n' :: rest => '\n' :: unifyBreaks rest
  | '\r' :: rest => '\n' :: unifyBreaks rest
  | c :: rest => c :: unifyBreaks rest
  | [] => []

def isBreak (c : Char) : Bool :=
  c = '\n' || c.toNat = 0x85 || c.toNat = 0x2028 || c.toNat = 0x2029

def dropLastBreak (s : List Char) : List Char :=
  if s.getLast? = some '\n' then s.dropLast else s

def endsLine : List Char → Bool
  | [] => true
  | c :: _ => isBreak c

def endsPlainly : List Char → Bool
  | ' ' :: _ => true
  | s => endsLine s

def endsWord : List Char → Bool
  | '\t' :: _ => true
  | s => endsPlainly s

def byteOrderMark : Char := Char.ofNat 0xFEFF

structure Cursor where
  rest : List Char
  index : Nat
  line : Nat
  column : Nat

namespace Cursor

def ofText (s : List Char) : Cursor := ⟨s, 0, 0, 0⟩

def next? (c : Cursor) : Option Char := c.rest.head?

def step (c : Cursor) : Cursor :=
  match c.rest with
  | [] => c
  | x :: rest =>
      if isBreak x then ⟨rest, c.index + 1, c.line + 1, 0⟩
      else ⟨rest, c.index + 1, c.line, if x = byteOrderMark then c.column else c.column + 1⟩

def forward : Nat → Cursor → Cursor
  | 0, c => c
  | n + 1, c => forward n c.step

def run (c : Cursor) (p : Char → Bool) : List Char := c.rest.takeWhile p

def skip (c : Cursor) (p : Char → Bool) : Cursor := c.forward (c.run p).length

def skipSpaces (c : Cursor) : Cursor := c.skip (· = ' ')

def skipComment (c : Cursor) : Cursor :=
  if c.next? = some '#' then c.skip fun x => !isBreak x else c

def takeBreak? (c : Cursor) : Option (Char × Cursor) :=
  match c.rest with
  | [] => none
  | x :: _ =>
      if x = '\n' || x.toNat = 0x85 then some ('\n', c.step)
      else if isBreak x then some (x, c.step)
      else none

/-- Whether a mark between documents comes next. -/
def meetsMark (c : Cursor) : Bool :=
  (c.rest.take 3 = ['-', '-', '-'] || c.rest.take 3 = ['.', '.', '.']) &&
    endsWord (c.rest.drop 3)

/-- Goes past what is left of a line that should hold no more, and past its end. -/
def closeLine (c : Cursor) : Except Trouble Cursor :=
  let d := c.skipSpaces.skipComment
  match d.takeBreak? with
  | some (_, e) => .ok e
  | none => if d.rest.isEmpty then .ok d else .error .malformed

end Cursor

end Vetting.Yaml
