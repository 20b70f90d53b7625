import Vetting.Text.Word
import Vetting.Yaml.Scalar

/-!
# Tokens

A document as a row of tokens. Indentation opens and closes block collections, and these
have tokens of their own. What turns out to be a key only when a colon follows it has its
token put in front of it then: until then it is kept as a candidate, one for each level
of brackets. A candidate is out of the running after its line or 1024 characters. One
that stands where only a key can stand has to be one.
-/
namespace Vetting.Yaml

inductive Directive where
  | version (major : Nat)
  | tagName (handle : List Char) (stem : List Char)
  | other
  deriving DecidableEq, Repr

inductive Token where
  | directive (d : Directive)
  | documentStart | documentEnd
  | blockSequence | blockMapping | blockEnd
  | flowSequence | flowSequenceEnd
  | flowMapping | flowMappingEnd
  | item | comma | key | value
  | alias (name : List Char)
  | anchor (name : List Char)
  | tag (handle : Option (List Char)) (suffix : List Char)
  | scalar (plain : Bool) (text : List Char)
  deriving DecidableEq, Repr

/-! ## Names, tags and directives -/

def isNameChar (c : Char) : Bool := Text.isAsciiAlnum c || c = '-' || c = '_'

/-- Characters that a name of an anchor can be followed by, blanks aside. -/
def endsName (s : List Char) : Bool :=
  endsWord s ||
    s.head?.any fun c =>
      c = '?' || c = ':' || c = ',' || c = ']' || c = '\x7d' || c = '%' || c = '@' ||
        c.toNat = 96

def anchorName (c : Cursor) : Except Trouble (List Char × Cursor) :=
  let name := c.run isNameChar
  let d := c.forward name.length
  if name.isEmpty || !endsName d.rest then .error .malformed else .ok (name, d)

def isTagChar (c : Char) : Bool :=
  Text.isAsciiAlnum c ||
    ['-', ';', '/', '?', ':', '@', '&', '=', '+', '$', ',', '_', '.', '!', '~', '*', '\'', '(',
      ')', '[', ']', '%'].contains c

/-- Bytes written in hexadecimal after percent signs. -/
def percentBytes : List Char → Option (List UInt8)
  | '%' :: a :: b :: rest =>
      if Pattern.isHexDigit a && Pattern.isHexDigit b then
        (percentBytes rest).map (UInt8.ofNat (Pattern.ofHexDigits [a, b]) :: ·)
      else none
  | '%' :: _ => none
  | _ => some []

/-- Takes the place of bytes in a tag, one run of them at a time. -/
def decodeTag : Nat → List Char → Option (List Char)
  | 0, _ => none
  | _ + 1, [] => some []
  | fuel + 1, '%' :: rest => do
      let bytes ← percentBytes ('%' :: rest)
      let s ← String.fromUTF8? (ByteArray.mk bytes.toArray)
      let more ← decodeTag fuel (('%' :: rest).drop (3 * bytes.length))
      some (s.toList ++ more)
  | fuel + 1, c :: rest => (decodeTag fuel rest).map (c :: ·)

def tagText (c : Cursor) : Except Trouble (List Char × Cursor) :=
  let written := c.run isTagChar
  if written.isEmpty then .error .malformed
  else match decodeTag (written.length + 1) written with
    | some s => .ok (s, c.forward written.length)
    | none => .error .malformed

/-- The name for the stem of a tag: signs of exclamation, and what stands between them. -/
def tagHandle (c : Cursor) : Except Trouble (List Char × Cursor) :=
  match c.rest with
  | '!' :: rest =>
      if rest.head? = some ' ' then .ok (['!'], c.step)
      else
        let name := rest.takeWhile isNameChar
        if (rest.drop name.length).head? = some '!' then
          .ok ('!' :: name ++ ['!'], c.forward (name.length + 2))
        else .error .malformed
  | _ => .error .malformed

def hasHandle (s : List Char) : Bool := (s.takeWhile fun c => c != ' ' && !isBreak c).contains '!'

def tagToken (c : Cursor) : Except Trouble (Token × Cursor) := do
  let after := c.rest.drop 1
  let (t, d) ← match after.head? with
    | some '<' => do
        let (suffix, d) ← tagText (c.forward 2)
        if d.next? = some '>' then .ok (Token.tag none suffix, d.step) else .error .malformed
    | _ =>
        if endsWord after then .ok (Token.tag none ['!'], c.step)
        else if hasHandle after then do
          let (handle, d) ← tagHandle c
          let (suffix, e) ← tagText d
          .ok (Token.tag (some handle) suffix, e)
        else do
          let (suffix, d) ← tagText c.step
          .ok (Token.tag (some ['!']) suffix, d)
  if endsPlainly d.rest then .ok (t, d) else .error .malformed

def isDigit (c : Char) : Bool := '0' ≤ c && c ≤ '9'

def directiveNumber (c : Cursor) : Except Trouble (Nat × Cursor) :=
  let ds := c.run isDigit
  if ds.isEmpty then .error .malformed
  else .ok (ds.foldl (fun n d => n * 10 + (d.toNat - 48)) 0, c.forward ds.length)

def directiveVersion (c : Cursor) : Except Trouble (Directive × Cursor) := do
  let (major, d) ← directiveNumber c.skipSpaces
  if d.next? != some '.' then .error .malformed
  else
    let (_, e) ← directiveNumber d.step
    if endsPlainly e.rest then .ok (.version major, e) else .error .malformed

def directiveTag (c : Cursor) : Except Trouble (Directive × Cursor) := do
  let (handle, d) ← tagHandle c.skipSpaces
  if d.next? != some ' ' then .error .malformed
  else
    let (stem, e) ← tagText d.skipSpaces
    if endsPlainly e.rest then .ok (.tagName handle stem, e) else .error .malformed

def directiveToken (c : Cursor) : Except Trouble (Token × Cursor) := do
  let name := c.run isNameChar
  let d := c.forward name.length
  if name.isEmpty || !endsPlainly d.rest then .error .malformed
  else
    let (directive, e) ←
      if name = ['Y', 'A', 'M', 'L'] then directiveVersion d
      else if name = ['T', 'A', 'G'] then directiveTag d
      else .ok (Directive.other, d.skip fun x => !isBreak x)
    .ok (.directive directive, ← e.closeLine)

/-! ## The row of tokens -/

/-- Where something starts that may turn out to be a key. -/
structure Candidate where
  /-- How many tokens stand before it. -/
  place : Nat
  needed : Bool
  start : Cursor

/-- A document that is read up to a cursor. -/
structure Scan where
  cursor : Cursor
  tokens : Array Token
  /-- The candidates of all levels of brackets, innermost first. -/
  candidates : List (Option Candidate)
  /-- The columns of the open block collections, innermost first. -/
  blocks : List Nat
  /-- Whether a key may start here. -/
  keyAllowed : Bool

abbrev Scanner := StateT Scan (Except Trouble)

namespace Scanner

def refuse {α : Type} : Scanner α := throw .malformed

def emit (t : Token) : Scanner Unit := modify fun s => { s with tokens := s.tokens.push t }

def allowKey (b : Bool) : Scanner Unit := modify fun s => { s with keyAllowed := b }

def moveTo (c : Cursor) : Scanner Unit := modify fun s => { s with cursor := c }

def inFlow : Scanner Bool := do return 1 < (← get).candidates.length

def dropStale : Scanner Unit := do
  let s ← get
  let isStale (k : Candidate) : Bool :=
    k.start.line != s.cursor.line || 1024 < s.cursor.index - k.start.index
  if s.candidates.any fun k => k.any fun k => isStale k && k.needed then refuse
  else
    let kept := s.candidates.map (Option.filter fun k => !isStale k)
    set { s with candidates := kept }

def dropCandidate : Scanner Unit := do
  let s ← get
  match s.candidates with
  | some k :: rest => if k.needed then refuse else set { s with candidates := none :: rest }
  | _ => pure ()

/-- Makes what starts here a candidate if a key may start here. -/
def saveCandidate : Scanner Unit := do
  if (← get).keyAllowed then
    dropCandidate
    let s ← get
    let needed := s.candidates.length = 1 && s.blocks.head? = some s.cursor.column
    let k : Candidate := ⟨s.tokens.size, needed, s.cursor⟩
    set { s with candidates := some k :: s.candidates.drop 1 }

/-- Closes the block collections that are indented further than a column. -/
def closeBlocks (stays : Nat → Bool) : Scanner Unit := do
  if !(← inFlow) then
    let s ← get
    let closed := s.blocks.takeWhile fun b => !stays b
    set { s with
      blocks := s.blocks.drop closed.length
      tokens := s.tokens ++ (closed.map fun _ => Token.blockEnd).toArray }

/-- Opens a block collection at a column, unless one is open there or further in. -/
def openBlock (column : Nat) : Scanner Bool := do
  let s ← get
  if s.blocks.head?.any fun b => column ≤ b then return false
  else
    set { s with blocks := column :: s.blocks }
    return true

/-- Goes past blanks, comments and line ends. -/
def skipToToken : Nat → Scanner Unit
  | 0 => pure ()
  | fuel + 1 => do
      let c := (← get).cursor.skipSpaces.skipComment
      match c.takeBreak? with
      | none => moveTo c
      | some (_, d) =>
          moveTo d
          if !(← inFlow) then allowKey true
          skipToToken fuel

def single (t : Token) : Scanner Unit := do
  moveTo (← get).cursor.step
  emit t

/-- Ends everything that does not reach over the border of a document. -/
def closeAll : Scanner Unit := do
  closeBlocks fun _ => false
  dropCandidate
  allowKey false

def mark (t : Token) : Scanner Unit := do
  closeAll
  moveTo ((← get).cursor.forward 3)
  emit t

def bracketOpens (t : Token) : Scanner Unit := do
  saveCandidate
  modify fun s => { s with candidates := none :: s.candidates }
  allowKey true
  single t

def bracketCloses (t : Token) : Scanner Unit := do
  dropCandidate
  if !(← inFlow) then refuse
  else
    modify fun s => { s with candidates := s.candidates.drop 1 }
    allowKey false
    single t

/-- A sign that starts an entry of a block collection. -/
def startEntry (opening : Token) : Scanner Unit := do
  if !(← inFlow) then
    if !(← get).keyAllowed then refuse
    else if ← openBlock (← get).cursor.column then emit opening

def item : Scanner Unit := do
  startEntry .blockSequence
  allowKey true
  dropCandidate
  single .item

def key : Scanner Unit := do
  startEntry .blockMapping
  allowKey !(← inFlow)
  dropCandidate
  single .key

/-- A colon: what stood before it is a key if it is a candidate. -/
def value : Scanner Unit := do
  let s ← get
  match s.candidates with
  | some k :: rest =>
      set { s with candidates := none :: rest, tokens := s.tokens.insertIdxIfInBounds k.place .key }
      if rest.isEmpty then
        if ← openBlock k.start.column then
          modify fun s =>
            { s with tokens := s.tokens.insertIdxIfInBounds k.place .blockMapping }
      allowKey false
  | _ =>
      startEntry .blockMapping
      allowKey !(← inFlow)
      dropCandidate
  single .value

/-- A token that can start a key. -/
def startingKey (read : Cursor → Except Trouble (Token × Cursor)) : Scanner Unit := do
  saveCandidate
  allowKey false
  let (t, c) ← read (← get).cursor
  moveTo c
  emit t

def named (make : List Char → Token) : Scanner Unit :=
  startingKey fun c => (anchorName c.step).map fun r => (make r.1, r.2)

def quoted (double : Bool) : Scanner Unit :=
  startingKey fun c =>
    (quotedText double c.fuel c.step).map fun r => (.scalar false r.1, r.2)

/-- The least column of what belongs to the innermost block collection. -/
def innerColumn (s : Scan) : Nat := (s.blocks.head?.map (· + 1)).getD 0

def block (folded : Bool) : Scanner Unit := do
  allowKey true
  dropCandidate
  let s ← get
  let (text, c) ← blockText folded (innerColumn s) s.cursor.step
  moveTo c
  emit (.scalar false text)

def plain : Scanner Unit := do
  saveCandidate
  let s ← get
  let (text, gap) := plainText (1 < s.candidates.length) (innerColumn s) s.cursor.fuel
    ⟨[], s.cursor, false⟩
  moveTo gap.after
  allowKey gap.crossed
  emit (.scalar true text)

def isSign (c : Char) : Bool :=
  ['-', '?', ':', ',', '[', ']', '\x7b', '\x7d', '#', '&', '*', '!', '|', '>', '\'', '"', '%',
    '@'].contains c || c.toNat = 96

def startsPlain (inFlow : Bool) (s : List Char) : Bool :=
  match s with
  | [] => false
  | c :: rest =>
      !(endsWord s || isSign c) ||
        (!endsWord rest && (c = '-' || (!inFlow && (c = '?' || c = ':'))))

/-- Reads one token, or more where block collections open and close; none at the end. -/
def next (s : List Char) (column : Nat) (flow : Bool) : Scanner Unit := do
  let after := s.drop 1
  let isMark (c : Char) : Bool :=
    column = 0 && s.take 3 = [c, c, c] && endsWord (s.drop 3)
  match s.head? with
  | none => pure ()
  | some c =>
      if c = '%' && column = 0 then
        closeAll
        let (t, d) ← directiveToken (← get).cursor.step
        moveTo d
        emit t
      else if isMark '-' then mark .documentStart
      else if isMark '.' then mark .documentEnd
      else if c = '[' then bracketOpens .flowSequence
      else if c = '\x7b' then bracketOpens .flowMapping
      else if c = ']' then bracketCloses .flowSequenceEnd
      else if c = '\x7d' then bracketCloses .flowMappingEnd
      else if c = ',' then
        allowKey true
        dropCandidate
        single .comma
      else if c = '-' && endsWord after then item
      else if c = '?' && (flow || endsWord after) then key
      else if c = ':' && (flow || endsWord after) then value
      else if c = '*' then named .alias
      else if c = '&' then named .anchor
      else if c = '!' then startingKey tagToken
      else if c = '|' && !flow then block false
      else if c = '>' && !flow then block true
      else if c = '\'' then quoted false
      else if c = '"' then quoted true
      else if startsPlain flow s then plain
      else refuse

def all : Nat → Scanner Unit
  | 0 => refuse
  | fuel + 1 => do
      skipToToken (← get).cursor.fuel
      dropStale
      let column := (← get).cursor.column
      closeBlocks fun b => b ≤ column
      let s ← get
      if s.cursor.rest.isEmpty then closeAll
      else
        next s.cursor.rest column (← inFlow)
        all fuel

end Scanner

def tokens (s : List Char) : Except Trouble (List Token) :=
  if s.all isPrintable then
    let text := unifyBreaks s
    let c := Cursor.ofText text
    let start := if c.next? = some byteOrderMark then c.step else c
    ((Scanner.all (text.length + 1)).run ⟨start, #[], [none], [], true⟩).map
      fun r => r.2.tokens.toList
  else .error .malformed

end Vetting.Yaml
