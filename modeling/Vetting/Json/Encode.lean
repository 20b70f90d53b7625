import Vetting.Value.Text

/-!
# Writing values as JSON

Values are written on one line, with a blank after every comma and colon and with
everything outside printable ASCII escaped. Scalars other than null, truth values,
numbers and texts have no such form, and neither have sets. A key of a dictionary is
written as the text of a scalar.
-/
namespace Vetting.Json
open Text Number

def unitEscape (n : Nat) : List Char := '\\' :: 'u' :: hexField 4 n

def escapeChar (c : Char) : List Char :=
  if c = '"' then ['\\', '"']
  else if c = '\\' then ['\\', '\\']
  else if c = '\n' then ['\\', 'n']
  else if c = '\r' then ['\\', 'r']
  else if c = '\t' then ['\\', 't']
  else if c = '\x0c' then ['\\', 'f']
  else if c = '\x08' then ['\\', 'b']
  else if ' ' ≤ c ∧ c ≤ '~' then [c]
  else if c.toNat < 0x10000 then unitEscape c.toNat
  else
    let n := c.toNat - 0x10000
    unitEscape (0xD800 + n / 0x400) ++ unitEscape (0xDC00 + n % 0x400)

def quote (s : String) : String := String.ofList ('"' :: s.toList.flatMap escapeChar ++ ['"'])

def floatText : Binary64 → String
  | .nan => "NaN"
  | .infinite negative => if negative then "-Infinity" else "Infinity"
  | x => x.text

def boolText (b : Bool) : String := if b then "true" else "false"

def keyText? : Value → Option String
  | .text s => some s
  | .float x => some (floatText x)
  | .bool b => some (boolText b)
  | .null => some "null"
  | .int n => (intText n).toOption
  | _ => none

mutual
def encode? : Value → Option String
  | .null => some "null"
  | .bool b => some (boolText b)
  | .int n => (intText n).toOption
  | .float x => some (floatText x)
  | .text s => some (quote s)
  | .list xs => (encodeItems? xs).map fun parts => "[" ++ commaJoin parts ++ "]"
  | .tuple xs => (encodeItems? xs).map fun parts => "[" ++ commaJoin parts ++ "]"
  | .dict es => (encodeEntries? es).map fun parts => "\x7b" ++ commaJoin parts ++ "\x7d"
  | _ => none

def encodeItems? : List Value → Option (List String)
  | [] => some []
  | x :: rest => do
      let part ← encode? x
      some (part :: (← encodeItems? rest))

def encodeEntries? : List (Value × Value) → Option (List String)
  | [] => some []
  | (k, v) :: rest => do
      let key ← keyText? k
      let part ← encode? v
      some ((quote key ++ ": " ++ part) :: (← encodeEntries? rest))
end

end Vetting.Json
