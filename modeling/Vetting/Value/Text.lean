import Vetting.Value.Basic
import Vetting.Text.Quoted

/-!
# Text of values

`literal` writes a value so that its kind can be seen: texts are quoted, and dates
and decimals are written as calls. `display` writes the value for a reader and
differs from it for texts, dates and decimals only. Both fail on an integer with
more digits than `Number.digitLimit`, wherever it stands.
-/
namespace Vetting
open Number Text

def intLimit : Nat := Nat.pow 10 4300

def intText (n : Int) : Except Fault String :=
  if n.natAbs < intLimit then .ok (if n < 0 then "-" ++ Nat.repr n.natAbs else Nat.repr n.natAbs)
  else .error .badValue

def joinChars (separator : List Char) : List (List Char) → List Char
  | [] => []
  | [x] => x
  | x :: rest => x ++ separator ++ joinChars separator rest

def commaJoin (parts : List String) : String := ", ".intercalate parts

def Date.literal (d : Date) : String :=
  "datetime.date(" ++ commaJoin [Nat.repr d.year, Nat.repr d.month, Nat.repr d.day] ++ ")"

def offsetLiteral (offset : Int) : String :=
  if offset = 0 then "tzinfo=datetime.timezone.utc"
  else
    let days := Int.fdiv offset 86400
    let seconds := (Int.fmod offset 86400).toNat
    let parts := (if days = 0 then [] else ["days=" ++ toString days]) ++
      (if seconds = 0 then [] else ["seconds=" ++ Nat.repr seconds])
    "tzinfo=datetime.timezone(datetime.timedelta(" ++ commaJoin parts ++ "))"

/-- Seconds and fractions are left out from the end as long as they are zero. -/
def Moment.literal (t : Moment) : String :=
  let d := t.date
  let base := [d.year, d.month, d.day, t.hour, t.minute]
  let tail := if t.micro != 0 then [t.second, t.micro]
    else if t.second != 0 then [t.second] else []
  let zone := match t.offset with
    | some o => [offsetLiteral o]
    | none => []
  "datetime.datetime(" ++ commaJoin ((base ++ tail).map Nat.repr ++ zone) ++ ")"

namespace Value

mutual
def literal : Value → Except Fault String
  | .null => .ok "None"
  | .bool b => .ok (if b then "True" else "False")
  | .int n => intText n
  | .float x => .ok x.text
  | .decimal d => .ok ("Decimal('" ++ d.text ++ "')")
  | .date d => .ok d.literal
  | .moment t => .ok t.literal
  | .bytes bs => .ok (String.ofList (quotedBytes bs))
  | .text s => .ok (String.ofList (quoted s.toList))
  | .list xs => do .ok ("[" ++ commaJoin (← literals xs) ++ "]")
  | .tuple xs => do
      match ← literals xs with
      | [one] => .ok ("(" ++ one ++ ",)")
      | parts => .ok ("(" ++ commaJoin parts ++ ")")
  | .set xs => do
      match ← literals xs with
      | [] => .ok "set()"
      | parts => .ok ("\x7b" ++ commaJoin parts ++ "\x7d")
  | .dict es => do .ok ("\x7b" ++ commaJoin (← entryLiterals es) ++ "\x7d")

def literals : List Value → Except Fault (List String)
  | [] => .ok []
  | x :: rest => do .ok ((← literal x) :: (← literals rest))

def entryLiterals : List (Value × Value) → Except Fault (List String)
  | [] => .ok []
  | (k, v) :: rest => do
      let key ← literal k
      let value ← literal v
      .ok ((key ++ ": " ++ value) :: (← entryLiterals rest))
end

def display : Value → Except Fault String
  | .text s => .ok s
  | .decimal d => .ok d.text
  | .date d => .ok d.text
  | .moment t => .ok t.text
  | v => v.literal

end Value

end Vetting
