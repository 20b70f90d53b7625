import Vetting.Reading
import Vetting.Rules.Comparison

/-!
# Rules on length

The length of a value is the number of its items, or of the characters of its text. The
bounds have to be integers, or texts of integers.
-/
namespace Vetting.Rules

/-- The integer that an argument of a rule is or spells. -/
def intArgument (rule : String) (v : Value) : Except Failure Int := do
  match ← orFail v.toInt with
  | some n => .ok n
  | none => .error (.refuseInteger rule v)

/-- A rule on the length of the value and one bound. The bound is read first. -/
def sized (name : String) (accepts : Int → Int → Bool) : Rule where
  label := name
  signature := { parameters := [xParameter, messageParameter] }
  run v b := match b.given with
    | [x, message] => do
        let limit ← intArgument name x
        let size ← orFail v.length
        .ok (.verdict (accepts size limit) message name [("x", .int limit)])
    | _ => misbound

def lgt : Rule := sized "lgt" fun size limit => limit < size

def lgte : Rule := sized "lgte" fun size limit => limit ≤ size

def llt : Rule := sized "llt" fun size limit => size < limit

def llte : Rule := sized "llte" fun size limit => size ≤ limit

/-- The length is read before the two bounds. -/
def lbetween : Rule where
  label := "lbetween"
  signature := { parameters := [xParameter, yParameter, messageParameter] }
  run v b := match b.given with
    | [x, y, message] => do
        let size ← orFail v.length
        let low ← intArgument "lbetween" x
        let high ← intArgument "lbetween" y
        .ok (.verdict (low ≤ size && (size : Int) ≤ high) message "lbetween"
          [("x", .int low), ("y", .int high)])
    | _ => misbound

end Vetting.Rules
