import Vetting.Number.Reading
import Vetting.Pattern.Node

/-!
# Reading patterns

A pattern is read once from left to right. `alternatives` reads rows of nodes parted
by bars, `row` one of them, up to a bar, a closing parenthesis or the end. Options for
the whole pattern can be set at its very start only, so the options in force are known
wherever a node is made.

Almost everything that cannot be read is a bad pattern. A repetition count can also be
too large, and ASCII and Unicode rules cannot both be asked for.
-/
namespace Vetting.Pattern
open Text

/-- What is known while a pattern is read. -/
structure Scan where
  rest : List Token
  /-- The options for the whole pattern. -/
  options : Options
  /-- Whether Unicode rules were asked for, and whether repetitions are ruled out. -/
  unicode : Bool
  single : Bool
  /-- Number of groups opened so far. -/
  opened : Nat
  names : List (List Char × Nat)
  /-- The widths of the groups that are closed. -/
  widths : List (Nat × Width)
  /-- Inside a look behind, the number of groups opened before it. -/
  horizon : Option Nat
  /-- Groups whose match has been made a condition. -/
  conditions : List Nat

abbrev Parse := StateT Scan (Except Fault)

def refuse {α : Type} : Parse α := throw .badPattern

def setRest (rest : List Token) : Parse Unit := modify fun s => { s with rest := rest }

def skip (c : Char) : Parse Bool := do
  match (← get).rest with
  | t :: rest =>
      if t = .plain c then
        setRest rest
        pure true
      else pure false
  | [] => pure false

/-- Runs a reader on the tokens that are left. -/
def reading {α : Type} (reader : List Token → Except Fault (α × List Token)) : Parse α := do
  match reader (← get).rest with
  | .ok (a, rest) => setRest rest; pure a
  | .error f => throw f

/-- The width of a closed group that may be referred to from here. -/
def closedGroup (index : Nat) : Parse Width := do
  let s ← get
  match s.widths.find? (·.1 == index) with
  | none => refuse
  | some (_, w) =>
      match s.horizon with
      | some limit => if limit < index then refuse else pure w
      | none => pure w

/-- Refuses a group that a look behind may not depend on. -/
def visibleGroup (index : Nat) : Parse Unit := do
  match (← get).horizon with
  | none => pure ()
  | some _ => discard (closedGroup index)

/-- Reads a reference or an octal number that starts with a digit other than zero. -/
def digitEscape (o : Options) (c : Char) : Parse Node := do
  let second ← reading fun ts => .ok (takeUpTo isAsciiDigit 1 ts)
  let third ← match second with
    | [d] =>
        if isOctalDigit c && isOctalDigit d then
          reading fun ts => .ok (takeUpTo isOctalDigit 1 ts)
        else pure []
    | _ => pure []
  if third.isEmpty then
    let index := ofDigits (digitValues (c :: second))
    if index ≤ (← get).opened then
      let w ← closedGroup index
      pure (.again o index w)
    else refuse
  else
    let n := ofOctalDigits (c :: second ++ third)
    if n ≤ 0o377 then pure (.one o (.single n)) else refuse

def escape (o : Options) (c : Char) : Parse Node :=
  if c = 'A' then pure (.anchor o .textStart)
  else if c = 'Z' then pure (.anchor o .textEnd)
  else if c = 'b' then pure (.anchor o .wordEdge)
  else if c = 'B' then pure (.anchor o .notWordEdge)
  else
    match categoryEscape? c, controlEscape? c with
    | some i, _ => pure (.one o ⟨false, [i]⟩)
    | none, some n => pure (.one o (.single n))
    | none, none => do
        match numberEscape? c (← get).rest with
        | some (.ok (n, rest)) => setRest rest; pure (.one o (.single n))
        | some (.error f) => throw f
        | none =>
            if c = '0' then
              let ds ← reading fun ts => .ok (takeUpTo isOctalDigit 2 ts)
              pure (.one o (.single (ofOctalDigits ds)))
            else if isAsciiDigit c then digitEscape o c
            else
              match selfEscape c with
              | .ok n => pure (.one o (.single n))
              | .error f => throw f

def countOf (ds : List Char) : Except Fault Nat :=
  if Number.digitLimit < ds.length then .error .badValue
  else
    let n := ofDigits (digitValues ds)
    if manyTimes ≤ n then .error .tooLarge else .ok n

/-- The bounds after an opening brace; none when it is no repetition after all. -/
def takeBounds (ts : List Token) :
    Except Fault (Option (Nat × Option Nat) × List Token) := do
  let lo := takeUpTo isAsciiDigit ts.length ts
  let hi : List Char × List Token := match lo.2 with
    | .plain ',' :: rest => takeUpTo isAsciiDigit rest.length rest
    | rest => (lo.1, rest)
  match ts, hi.2 with
  | .plain '}' :: _, _ => .ok (none, ts)
  | _, .plain '}' :: rest => do
      let rest ← unbroken rest
      let least ← if lo.1.isEmpty then .ok 0 else countOf lo.1
      let most ← if hi.1.isEmpty then .ok none else (countOf hi.1).map some
      if least ≤ most.getD least then .ok (some (least, most), rest) else .error .badPattern
  | _, _ => .ok (none, ts)

def repeatLast (lo : Nat) (hi : Option Nat) : List Node → Parse (List Node)
  | [] => refuse
  | n :: done => do
      if n.isAnchor || n.isRepeated then refuse
      else
        let greed ← do
          if ← skip '?' then pure Greed.lazy
          else if ← skip '+' then pure Greed.possessive
          else pure Greed.greedy
        pure (.repeated greed lo hi [n] :: done)

/-- The options that letters name. -/
structure Letters where
  ignoreCase : Bool := false
  multiLine : Bool := false
  dotAll : Bool := false
  verbose : Bool := false
  ascii : Bool := false
  unicode : Bool := false
  single : Bool := false
  deriving DecidableEq, Inhabited

def isLetterOption (c : Char) : Bool :=
  c = 'i' || c = 'L' || c = 'm' || c = 's' || c = 'x' || c = 'a' || c = 't' || c = 'u'

/-- Adds the option of a letter. Options of character sets exclude one another, and one
of them is not for text. -/
def Letters.add (l : Letters) (c : Char) : Except Fault Letters :=
  if c = 'i' then .ok { l with ignoreCase := true }
  else if c = 'm' then .ok { l with multiLine := true }
  else if c = 's' then .ok { l with dotAll := true }
  else if c = 'x' then .ok { l with verbose := true }
  else if c = 't' then .ok { l with single := true }
  else if c = 'a' ∧ !l.unicode then .ok { l with ascii := true }
  else if c = 'u' ∧ !l.ascii then .ok { l with unicode := true }
  else .error .badPattern

def Letters.overlap (a b : Letters) : Bool :=
  (a.ignoreCase && b.ignoreCase) || (a.multiLine && b.multiLine) || (a.dotAll && b.dotAll) ||
    (a.verbose && b.verbose)

/-- Options with some turned on and others turned off. -/
def Options.change (o : Options) (on off : Letters) : Options where
  ignoreCase := (o.ignoreCase || on.ignoreCase) && !off.ignoreCase
  multiLine := (o.multiLine || on.multiLine) && !off.multiLine
  dotAll := (o.dotAll || on.dotAll) && !off.dotAll
  verbose := (o.verbose || on.verbose) && !off.verbose
  ascii := on.ascii || (o.ascii && !on.unicode)

/-- Letters up to one of the characters that may end them. -/
def takeLetters (ends : List Char) : Letters → List Token →
    Except Fault (Letters × Char × List Token)
  | l, .plain c :: rest =>
      if ends.contains c then .ok (l, c, rest)
      else do takeLetters ends (← l.add c) rest
  | _, _ => .error .badPattern

/-- What an opening parenthesis opens. -/
inductive Opening where
  | comment
  | again (index : Nat) (width : Width)
  /-- Options for the whole pattern. -/
  | options (on : Letters)
  | look (behind positive : Bool)
  | given (index : Nat)
  | group (capturing atomic : Bool) (name : Option (List Char)) (on off : Letters)

/-- Reads options after a question mark; `c` is their first character. -/
def optionOpening (c : Char) (rest : List Token) : Except Fault (Opening × List Token) := do
  let (on, stop, rest) ←
    if c = '-' then .ok ({}, '-', rest) else takeLetters [')', '-', ':'] {} (.plain c :: rest)
  if stop = ')' then .ok (.options on, rest)
  else if on.single then .error .badPattern
  else if stop = ':' then .ok (.group false false none on {}, rest)
  else
    match rest with
    | .plain ':' :: _ => .error .badPattern
    | _ => do
        let (off, _, rest) ← takeLetters [':'] {} rest
        if off.single || off.ascii || off.unicode || on.overlap off then .error .badPattern
        else .ok (.group false false none on off, rest)

def skipComment : List Token → Except Fault (List Token)
  | [] => .error .badPattern
  | t :: rest => if t = .plain ')' then .ok rest else skipComment rest

def namedGroup (name : List Char) : Parse Nat := do
  match (← get).names.find? (·.1 == name) with
  | some (_, index) => pure index
  | none => refuse

/-- The group whose match a condition asks for, by name or by number. -/
def conditionOpening : Parse Opening := do
  let name ← reading (takeName ')')
  let index ←
    if isIdentifier name then namedGroup name
    else
      match Number.readInt? name with
      | some n =>
          if 0 < n ∧ n < groupLimit then do
            modify fun s => { s with conditions := n.toNat :: s.conditions }
            pure n.toNat
          else refuse
      | none => refuse
  visibleGroup index
  pure (.given index)

/-- Reads what follows an opening parenthesis and its question mark. -/
def questionOpening : Parse Opening := do
  match (← get).rest with
  | .plain 'P' :: .plain '<' :: rest => do
      setRest rest
      let name ← reading (takeName '>')
      if isIdentifier name then pure (.group true false (some name) {} {}) else refuse
  | .plain 'P' :: .plain '=' :: rest => do
      setRest rest
      let name ← reading (takeName ')')
      if isIdentifier name then
        let index ← namedGroup name
        pure (.again index (← closedGroup index))
      else refuse
  | .plain ':' :: rest => setRest rest; pure (.group false false none {} {})
  | .plain '>' :: rest => setRest rest; pure (.group false true none {} {})
  | .plain '#' :: rest =>
      match skipComment rest with
      | .ok rest => setRest rest; pure .comment
      | .error f => throw f
  | .plain '=' :: rest => setRest rest; pure (.look false true)
  | .plain '!' :: rest => setRest rest; pure (.look false false)
  | .plain '<' :: .plain '=' :: rest => setRest rest; pure (.look true true)
  | .plain '<' :: .plain '!' :: rest => setRest rest; pure (.look true false)
  | .plain '(' :: rest => setRest rest; conditionOpening
  | .plain c :: rest =>
      if isLetterOption c || c = '-' then
        setRest rest
        reading (optionOpening c)
      else refuse
  | _ => refuse

def opening : Parse Opening := do
  if ← skip '?' then questionOpening else pure (.group true false none {} {})

/-- Gives the next number to a group, and remembers its name. -/
def openGroup (name : Option (List Char)) : Parse Nat := do
  let s ← get
  let index := s.opened + 1
  match name with
  | none => set { s with opened := index }; pure index
  | some n =>
      if (s.names.find? (·.1 == n)).isSome then refuse
      else set { s with opened := index, names := s.names ++ [(n, index)] }; pure index

def closeGroup (index : Nat) (body : List Node) : Parse Unit :=
  modify fun s => { s with widths := (index, rowWidth body) :: s.widths }

def afterLine : List Token → List Token
  | [] => []
  | t :: rest => if t = .plain '\n' then rest else afterLine rest

def expectClose : Parse Unit := do if ← skip ')' then pure () else refuse

def enterLook (behind : Bool) : Parse (Option Nat) := do
  let s ← get
  if behind && s.horizon.isNone then set { s with horizon := some s.opened }
  pure s.horizon

def leaveLook (horizon : Option Nat) : Parse Unit :=
  modify fun s => { s with horizon := horizon }

def setOptions (on : Letters) : Parse Unit :=
  modify fun s => { s with
    options := { s.options.change on {} with ascii := s.options.ascii || on.ascii }
    unicode := s.unicode || on.unicode
    single := s.single || on.single }

mutual
/-- Rows of nodes parted by bars. Without options of its own, what is read is at the
outermost level of the pattern. -/
def alternatives : Nat → Option Options → Parse (List Node)
  | 0, _ => refuse
  | fuel + 1, own => do
      let first ← row fuel own own.isNone []
      match ← moreAlternatives fuel own with
      | [] => pure first
      | others => pure [.branch (first :: others)]

def moreAlternatives : Nat → Option Options → Parse (List (List Node))
  | 0, _ => refuse
  | fuel + 1, own => do
      if ← skip '|' then
        let next ← row fuel own false []
        pure (next :: (← moreAlternatives fuel own))
      else pure []

/-- A row of nodes, given the nodes read so far in reverse. -/
def row : Nat → Option Options → Bool → List Node → Parse (List Node)
  | 0, _, _, _ => refuse
  | fuel + 1, own, first, done => do
      let s ← get
      let o := own.getD s.options
      match s.rest with
      | [] => pure done.reverse
      | .broken :: _ => refuse
      | .escaped c :: rest => do
          setRest rest
          let n ← escape o c
          row fuel own first (n :: done)
      | .plain c :: rest =>
          if c = '|' || c = ')' then pure done.reverse
          else do
            setRest rest
            if o.verbose && isAsciiSpace c then row fuel own first done
            else if o.verbose && c = '#' then do
              setRest (afterLine rest)
              row fuel own first done
            else if c = '[' then do
              let k ← reading CharClass.read
              row fuel own first (.one o k :: done)
            else if c = '.' then row fuel own first (.any o :: done)
            else if c = '^' then row fuel own first (.anchor o .lineStart :: done)
            else if c = '$' then row fuel own first (.anchor o .lineEnd :: done)
            else if c = '*' then do row fuel own first (← repeatLast 0 none done)
            else if c = '+' then do row fuel own first (← repeatLast 1 none done)
            else if c = '?' then do row fuel own first (← repeatLast 0 (some 1) done)
            else if c = '{' then do
              match ← reading takeBounds with
              | some (lo, hi) => row fuel own first (← repeatLast lo hi done)
              | none => row fuel own first (.one o (.single c.toNat) :: done)
            else if c = '(' then do
              match ← opening with
              | .comment => row fuel own first done
              | .again index w => row fuel own first (.again o index w :: done)
              | .options on =>
                  if first && done.isEmpty then do
                    setOptions on
                    row fuel own first done
                  else refuse
              | .look behind positive => do
                  let outer ← enterLook behind
                  let body ← alternatives fuel (some o)
                  leaveLook outer
                  expectClose
                  row fuel own first (.look behind positive body :: done)
              | .given index => do
                  let yes ← row fuel (some o) false []
                  let no ← do
                    if ← skip '|' then row fuel (some o) false [] else pure []
                  expectClose
                  row fuel own first (.given index yes no :: done)
              | .group capturing isAtomic name on off => do
                  let index ← do
                    if capturing then (openGroup name).map some else pure none
                  let body ← alternatives fuel (some (o.change on off))
                  expectClose
                  match index with
                  | some i => closeGroup i body
                  | none => pure ()
                  let n := if isAtomic then Node.atomic body else .group index body
                  row fuel own first (n :: done)
            else row fuel own first (.one o (.single c.toNat) :: done)
end

/-- What has to hold of a pattern as a whole. -/
def finish (nodes : List Node) (s : Scan) : Except Fault Regex :=
  if s.options.ascii && s.unicode then .error .badValue
  else if !s.rest.isEmpty then .error .badPattern
  else if s.conditions.any (s.opened < ·) then .error .badPattern
  else if !rowLookable nodes || (s.single && rowRepeats nodes) then .error .badPattern
  else .ok ⟨nodes, s.opened, s.names⟩

def Regex.parse (s : List Char) : Except Fault Regex := do
  let ts := tokens s
  let start : Scan := ⟨ts, .plain, false, false, 0, [], [], none, []⟩
  let (nodes, left) ← (alternatives (4 * ts.length + 4) none).run start
  finish nodes left

end Vetting.Pattern
