import Vetting.Reading
import Vetting.Rule.Basic

/-!
# Rules on the kind of a value

Rules without arguments that look at what a value is, not at what it spells. Truth
values are not integers, and moments are dates.
-/
namespace Vetting.Rules

def plainRule (name : String) (passes : Value → Bool) : Rule where
  label := name
  signature := {}
  run v b := match b.given with
    | [] => .ok (.verdict (passes v) .null name [])
    | _ => misbound

def ofKind (kinds : List Kind) (v : Value) : Bool := kinds.contains v.kind

def array : Rule := plainRule "array" (ofKind [.list, .tuple, .dict])

def string : Rule := plainRule "string" (ofKind [.text])

def boolean : Rule := plainRule "boolean" (ofKind [.bool])

def integer : Rule := plainRule "integer" (ofKind [.int])

def numeric : Rule := plainRule "numeric" Value.isNumeric

def float : Rule := plainRule "float" (ofKind [.float])

def null : Rule := plainRule "null" Value.isNull

def req : Rule := plainRule "req" fun v => !v.isNull

def date : Rule := plainRule "date" (ofKind [.date, .moment])

end Vetting.Rules
