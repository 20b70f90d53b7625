import Vetting.Pattern.Node

/-!
# Matching

Matching goes from a cursor to a cursor. A node is given what has to match after it,
tries its own possibilities in order of preference and returns the first cursor that
the rest accepts, so the whole search is one total function by recursion on the
pattern. Repetitions carry a bound on their rounds: after the rounds they must make,
each further round has to start at a new place.
-/
namespace Vetting.Pattern
open Text

/-- A place in a text, what lies before it (nearest first) and after it, and the
places at which groups have started and ended. -/
structure Cursor where
  place : Nat
  passed : List Char
  ahead : List Char
  starts : Array (Option Nat)
  stops : Array (Option Nat)
  deriving Inhabited, Repr

/-- What has to match from a cursor on. -/
abbrev Next := Cursor → Option Cursor

namespace Cursor

def ofText (s : List Char) : Cursor := ⟨0, [], s, #[], #[]⟩

def step? (test : Char → Bool) (c : Cursor) : Option Cursor :=
  match c.ahead with
  | x :: rest =>
      if test x then some { c with place := c.place + 1, passed := x :: c.passed, ahead := rest }
      else none
  | [] => none

def back? : Nat → Cursor → Option Cursor
  | 0, c => some c
  | n + 1, c =>
      match c.passed with
      | x :: rest => back? n { c with place := c.place - 1, passed := rest, ahead := x :: c.ahead }
      | [] => none

def whole (c : Cursor) : List Char := c.passed.reverse ++ c.ahead

/-- An array with an entry at an index beyond its end if need be. -/
def mark (xs : Array (Option Nat)) (i n : Nat) : Array (Option Nat) :=
  let xs := if i < xs.size then xs else xs ++ Array.replicate (i + 1 - xs.size) none
  xs.setIfInBounds i (some n)

def startGroup (i : Nat) (c : Cursor) : Cursor := { c with starts := mark c.starts i c.place }

def stopGroup (i : Nat) (c : Cursor) : Cursor := { c with stops := mark c.stops i c.place }

/-- The text that a group has matched. -/
def group? (i : Nat) (c : Cursor) : Option (List Char) :=
  match c.starts.getD i none, c.stops.getD i none with
  | some a, some b => if a ≤ b then some ((c.whole.drop a).take (b - a)) else none
  | _, _ => none

/-- Whether a word edge lies between the characters around a cursor. -/
def atWordEdge (ascii : Bool) (c : Cursor) : Bool :=
  let inWord (s : List Char) : Bool := match s with
    | x :: _ => Category.word.holds ascii x
    | [] => false
  inWord c.passed != inWord c.ahead

end Cursor

def Anchor.holds (o : Options) (a : Anchor) (c : Cursor) : Bool :=
  match a with
  | .textStart => c.passed.isEmpty
  | .textEnd => c.ahead.isEmpty
  | .lineStart => c.passed.isEmpty || (o.multiLine && c.passed.head? == some '\n')
  | .lineEnd =>
      c.ahead.isEmpty || c.ahead == ['\n'] || (o.multiLine && c.ahead.head? == some '\n')
  | .wordEdge => c.atWordEdge o.ascii
  | .notWordEdge => !(c.passed.isEmpty && c.ahead.isEmpty) && !c.atWordEdge o.ascii

def sameChar (o : Options) (x y : Char) : Bool :=
  if o.ignoreCase then foldCase o.ascii x == foldCase o.ascii y else x == y

def Cursor.follow? (o : Options) : List Char → Cursor → Option Cursor
  | [], c => some c
  | x :: rest, c => (c.step? (sameChar o x)).bind (follow? o rest)

def mayRepeat (hi : Option Nat) (rounds : Nat) : Bool :=
  match hi with
  | none => true
  | some n => rounds < n

/-- As many rounds as possible first. `last` is where the latest free round began. -/
def greedily (step : Next → Next) (lo : Nat) (hi : Option Nat) (next : Next) :
    Nat → Nat → Option Nat → Next
  | 0, _, _, _ => none
  | fuel + 1, rounds, last, c =>
      if rounds < lo then step (greedily step lo hi next fuel (rounds + 1) last) c
      else if mayRepeat hi rounds && last != some c.place then
        match step (greedily step lo hi next fuel (rounds + 1) (some c.place)) c with
        | some d => some d
        | none => next c
      else next c

def lazily (step : Next → Next) (lo : Nat) (hi : Option Nat) (next : Next) :
    Nat → Nat → Option Nat → Next
  | 0, _, _, _ => none
  | fuel + 1, rounds, last, c =>
      if rounds < lo then step (lazily step lo hi next fuel (rounds + 1) last) c
      else
        match next c with
        | some d => some d
        | none =>
            if mayRepeat hi rounds && last != some c.place then
              step (lazily step lo hi next fuel (rounds + 1) (some c.place)) c
            else none

/-- Rounds that are never taken back. -/
def possessively (step : Next → Next) (lo : Nat) (hi : Option Nat) :
    Nat → Nat → Option Nat → Next
  | 0, _, _, _ => none
  | fuel + 1, rounds, last, c =>
      if rounds < lo then
        (step some c).bind (possessively step lo hi fuel (rounds + 1) last)
      else if mayRepeat hi rounds && last != some c.place then
        match step some c with
        | some d => possessively step lo hi fuel (rounds + 1) (some c.place) d
        | none => some c
      else some c

def repeatFuel (lo : Nat) (c : Cursor) : Nat := lo + c.ahead.length + 2

mutual
def Node.run : Node → Next → Next
  | .one o k, next, c => (c.step? (k.contains o)).bind next
  | .any o, next, c => (c.step? fun x => o.dotAll || x != '\n').bind next
  | .anchor o a, next, c => if a.holds o c then next c else none
  | .group none body, next, c => runRow body next c
  | .group (some i) body, next, c =>
      runRow body (fun d => next (d.stopGroup i)) (c.startGroup i)
  | .atomic body, next, c => (runRow body some c).bind next
  | .branch alternatives, next, c => runFirst alternatives next c
  | .repeated .greedy lo hi body, next, c =>
      greedily (runRow body) lo hi next (repeatFuel lo c) 0 none c
  | .repeated .lazy lo hi body, next, c =>
      lazily (runRow body) lo hi next (repeatFuel lo c) 0 none c
  | .repeated .possessive lo hi body, next, c =>
      (possessively (runRow body) lo hi (repeatFuel lo c) 0 none c).bind next
  | .again o i _, next, c =>
      match c.group? i with
      | some s => (c.follow? o s).bind next
      | none => none
  | .look behind positive body, next, c =>
      let start? := if behind then c.back? (rowWidth body).1 else some c
      match start?.bind (runRow body some), positive with
      | some d, true => next { c with starts := d.starts, stops := d.stops }
      | some _, false => none
      | none, true => none
      | none, false => next c
  | .given i yes no, next, c =>
      if (c.group? i).isSome then runRow yes next c else runRow no next c

def runRow : List Node → Next → Next
  | [], next, c => next c
  | n :: rest, next, c => n.run (runRow rest next) c

/-- The first alternative that leads to a match. -/
def runFirst : List (List Node) → Next → Next
  | [], _, _ => none
  | body :: rest, next, c =>
      match runRow body next c with
      | some d => some d
      | none => runFirst rest next c
end

/-- A match: the text passed over before it, the place where it starts, and the cursor
at its end. -/
structure Found where
  gap : List Char
  start : Nat
  stop : Cursor

def Found.isEmpty (m : Found) : Bool := m.stop.place == m.start

def Found.text (m : Found) : List Char :=
  (m.stop.whole.drop m.start).take (m.stop.place - m.start)

namespace Regex

def matchesAll (p : Regex) (s : List Char) : Bool :=
  (runRow p.nodes (fun d => if d.ahead.isEmpty then some d else none) (.ofText s)).isSome

/-- The match that starts at a cursor; with `moving`, one that is not empty. -/
def matchAt (p : Regex) (moving : Bool) (c : Cursor) : Option Cursor :=
  runRow p.nodes (fun d => if moving && d.place == c.place then none else some d) c

/-- The first match at or after a place, with the text passed over before it. -/
def find? (p : Regex) (moving : Bool) (place : Nat) (passed : List Char) :
    List Char → Option (List Char × Cursor)
  | [] => (p.matchAt moving ⟨place, passed, [], #[], #[]⟩).map fun d => ([], d)
  | x :: rest =>
      match p.matchAt moving ⟨place, passed, x :: rest, #[], #[]⟩ with
      | some d => some ([], d)
      | none =>
          (p.find? false (place + 1) (x :: passed) rest).map fun r => (x :: r.1, r.2)

def occursIn (p : Regex) (s : List Char) : Bool := (p.find? false 0 [] s).isSome

/-- The matches from left to right, at most `limit` of them, and the text after the last
one. An empty match may not follow a match that is empty and ends where it starts. -/
def findAll (p : Regex) (limit : Option Nat) :
    Nat → Bool → Nat → List Char → List Char → List Found × List Char
  | 0, _, _, _, ahead => ([], ahead)
  | fuel + 1, moving, place, passed, ahead =>
      if limit = some 0 then ([], ahead)
      else
        match p.find? moving place passed ahead with
        | none => ([], ahead)
        | some (gap, d) =>
            let found : Found := ⟨gap, place + gap.length, d⟩
            let r := findAll p (limit.map (· - 1)) fuel found.isEmpty d.place d.passed d.ahead
            (found :: r.1, r.2)

/-- A text with its matches replaced, at most `limit` of them. -/
def replace (p : Regex) (limit : Option Nat) (f : Found → List Char) (s : List Char) :
    List Char :=
  let r := p.findAll limit (2 * s.length + 2) false 0 [] s
  (r.1.flatMap fun m => m.gap ++ f m) ++ r.2

end Regex

end Vetting.Pattern
