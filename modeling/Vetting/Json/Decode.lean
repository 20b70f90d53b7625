import Vetting.Number.Reading
import Vetting.Pattern.Token
import Vetting.Value.Equality

/-!
# Reading values from JSON

The usual grammar, with the three words for numbers that are not finite. Of entries
with one key the last counts, in the place of the first. A text that breaks the
grammar is malformed; an integer with more digits than `Number.digitLimit` is met
before anything after it is looked at, and is a fault of its own.
-/
namespace Vetting.Json
open Text Number

inductive Trouble where
  | malformed
  | tooManyDigits
  deriving DecidableEq, Repr

abbrev Reader (α : Type) := List Char → Except Trouble (α × List Char)

def isJsonBlank (c : Char) : Bool := c = ' ' || c = '\t' || c = '\n' || c = '\r'

def skipBlanks (s : List Char) : List Char := s.dropWhile isJsonBlank

def takeUnit (s : List Char) : Option (Nat × List Char) :=
  let ds := s.take 4
  if ds.length = 4 ∧ ds.all Pattern.isHexDigit then
    some (Pattern.ofHexDigits ds, s.drop 4)
  else none

def isHighUnit (n : Nat) : Bool := 0xD800 ≤ n && n < 0xDC00

def isLowUnit (n : Nat) : Bool := 0xDC00 ≤ n && n < 0xE000

/-- The character of an escaped code unit, taken together with a second one if the two
make a pair. A half of a pair that stands alone is no character of a text here, and the sign for
what cannot be shown stands for it. -/
def takeEscapedUnit : Reader Char := fun s =>
  match takeUnit s with
  | none => .error .malformed
  | some (n, rest) =>
      match isHighUnit n, rest with
      | true, '\\' :: 'u' :: more =>
          match takeUnit more with
          | none => .error .malformed
          | some (m, left) =>
              if isLowUnit m then
                .ok (Char.ofNat (0x10000 + (n - 0xD800) * 0x400 + (m - 0xDC00)), left)
              else .ok (Char.ofNat 0xFFFD, rest)
      | _, _ => .ok (if n.isValidChar then Char.ofNat n else Char.ofNat 0xFFFD, rest)

/-- The character that a letter stands for after a backslash. -/
def shortEscape? (c : Char) : Option Char :=
  if c = '"' ∨ c = '\\' ∨ c = '/' then some c
  else if c = 'b' then some '\x08'
  else if c = 'f' then some '\x0c'
  else if c = 'n' then some '\n'
  else if c = 'r' then some '\r'
  else if c = 't' then some '\t'
  else none

/-- The characters of a string up to its closing quote. -/
def takeString : Nat → Reader (List Char)
  | 0, _ => .error .malformed
  | _ + 1, [] => .error .malformed
  | _ + 1, '"' :: rest => .ok ([], rest)
  | fuel + 1, '\\' :: 'u' :: rest => do
      let (c, rest) ← takeEscapedUnit rest
      let r ← takeString fuel rest
      .ok (c :: r.1, r.2)
  | fuel + 1, '\\' :: c :: rest =>
      match shortEscape? c with
      | some d => do
          let r ← takeString fuel rest
          .ok (d :: r.1, r.2)
      | none => .error .malformed
  | fuel + 1, c :: rest =>
      if c.toNat < 32 ∨ c = '\\' then .error .malformed
      else do
        let r ← takeString fuel rest
        .ok (c :: r.1, r.2)

def takeAsciiDigits (s : List Char) : List Char × List Char :=
  (s.takeWhile isAsciiDigit, s.dropWhile isAsciiDigit)

def takeWhole (s : List Char) : Option (List Char × List Char) :=
  match s with
  | '0' :: rest => some (['0'], rest)
  | c :: _ => if isAsciiDigit c then some (takeAsciiDigits s) else none
  | [] => none

def takeFraction (s : List Char) : Option (List Char) × List Char :=
  match s with
  | '.' :: rest =>
      match takeAsciiDigits rest with
      | ([], _) => (none, s)
      | (ds, left) => (some ds, left)
  | _ => (none, s)

/-- An exponent with its sign; without a digit nothing is taken. -/
def takePower (s : List Char) : Option (Bool × List Char) × List Char :=
  match s with
  | c :: rest =>
      if c = 'e' ∨ c = 'E' then
        let sign := takeSign rest
        match takeAsciiDigits sign.2 with
        | ([], _) => (none, s)
        | (ds, left) => (some (sign.1, ds), left)
      else (none, s)
  | [] => (none, [])

/-- A number, an integer if it has neither fraction nor exponent. -/
def takeNumber : Reader Value := fun s =>
  let sign : Bool × List Char := match s with
    | '-' :: rest => (true, rest)
    | rest => (false, rest)
  match takeWhole sign.2 with
  | none => .error .malformed
  | some (ds, rest) =>
      let fraction := takeFraction rest
      let power := takePower fraction.2
      match fraction.1, power.1 with
      | none, none =>
          if ds.length ≤ digitLimit then
            .ok (.int (signed sign.1 (ofDigits (digitValues ds))), power.2)
          else .error .tooManyDigits
      | _, _ =>
          let n : Numeral :=
            ⟨sign.1, digitValues ds, fraction.1.map digitValues,
              power.1.map fun p => (p.1, digitValues p.2)⟩
          .ok (.float n.toBinary64, power.2)

def words : List (List Char × Value) :=
  [("null".toList, .null), ("true".toList, .bool true), ("false".toList, .bool false),
   ("NaN".toList, .float .nan), ("Infinity".toList, .float (.infinite false)),
   ("-Infinity".toList, .float (.infinite true))]

def takeWord (s : List Char) : Option (Value × List Char) :=
  (words.find? fun w => w.1.isPrefixOf s).map fun w => (w.2, s.drop w.1.length)

mutual
/-- Reads one value; nothing but blanks inside it is passed over. -/
def takeValue : Nat → Reader Value
  | 0, _ => .error .malformed
  | fuel + 1, s =>
      match s with
      | '"' :: rest => do
          let (cs, rest) ← takeString (rest.length + 1) rest
          .ok (.text (String.ofList cs), rest)
      | '[' :: rest => do
          match skipBlanks rest with
          | ']' :: rest => .ok (.list [], rest)
          | rest =>
              let (xs, rest) ← takeItems fuel rest
              .ok (.list xs, rest)
      | '\x7b' :: rest => do
          match skipBlanks rest with
          | '\x7d' :: rest => .ok (.dict [], rest)
          | rest =>
              let (es, rest) ← takeEntries fuel [] rest
              .ok (.dict es, rest)
      | _ =>
          match takeWord s with
          | some r => .ok r
          | none => takeNumber s

def takeItems : Nat → Reader (List Value)
  | 0, _ => .error .malformed
  | fuel + 1, s => do
      let (x, rest) ← takeValue fuel s
      match skipBlanks rest with
      | ']' :: rest => .ok ([x], rest)
      | ',' :: rest =>
          let r ← takeItems fuel (skipBlanks rest)
          .ok (x :: r.1, r.2)
      | _ => .error .malformed

/-- Entries up to the closing brace, added to those read before. -/
def takeEntries : Nat → List (Value × Value) → Reader (List (Value × Value))
  | 0, _, _ => .error .malformed
  | fuel + 1, es, s =>
      match s with
      | '"' :: rest => do
          let (cs, rest) ← takeString (rest.length + 1) rest
          match skipBlanks rest with
          | ':' :: rest => do
              let (v, rest) ← takeValue fuel (skipBlanks rest)
              let es := Value.insert (.text (String.ofList cs)) v es
              match skipBlanks rest with
              | '\x7d' :: rest => .ok (es, rest)
              | ',' :: rest => takeEntries fuel es (skipBlanks rest)
              | _ => .error .malformed
          | _ => .error .malformed
      | _ => .error .malformed
end

def decode (s : String) : Except Trouble Value := do
  let cs := skipBlanks s.toList
  let (v, rest) ← takeValue (2 * cs.length + 2) cs
  if (skipBlanks rest).isEmpty then .ok v else .error .malformed

end Vetting.Json
