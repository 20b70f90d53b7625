import Vetting.Calendar
import Vetting.Fault
import Vetting.Number.Order

/-!
# Values

Everything that can be checked, transformed or held in a message: scalars, and
containers of values. A dictionary keeps its entries in the order in which their
keys came in. Values are trees; that two places hold the same container is a
matter of the chain that refers to it, not of the value.
-/
namespace Vetting
open Number

inductive Value where
  | null
  | bool (b : Bool)
  | int (n : Int)
  | float (x : Binary64)
  | decimal (d : Decimal)
  | date (d : Date)
  | moment (t : Moment)
  | bytes (bs : List UInt8)
  | text (s : String)
  | list (xs : List Value)
  | tuple (xs : List Value)
  | set (xs : List Value)
  | dict (entries : List (Value × Value))
  deriving Inhabited, Repr

inductive Kind where
  | null | bool | int | float | decimal | date | moment | bytes | text | list | tuple | set | dict
  deriving DecidableEq, Repr

namespace Value

def kind : Value → Kind
  | .null => .null
  | .bool _ => .bool
  | .int _ => .int
  | .float _ => .float
  | .decimal _ => .decimal
  | .date _ => .date
  | .moment _ => .moment
  | .bytes _ => .bytes
  | .text _ => .text
  | .list _ => .list
  | .tuple _ => .tuple
  | .set _ => .set
  | .dict _ => .dict

/-- What counts as yes where a condition is wanted: zeros and empty things do not. -/
def truth : Value → Bool
  | .null => false
  | .bool b => b
  | .int n => n != 0
  | .float x => !x.isZero
  | .decimal d => !d.isZero
  | .date _ => true
  | .moment _ => true
  | .bytes bs => !bs.isEmpty
  | .text s => !s.isEmpty
  | .list xs => !xs.isEmpty
  | .tuple xs => !xs.isEmpty
  | .set xs => !xs.isEmpty
  | .dict es => !es.isEmpty

/-- The number a value is in comparisons; truth values are one and zero. -/
def number? : Value → Option Number
  | .bool b => some (.int (if b then 1 else 0))
  | .int n => some (.int n)
  | .float x => some (.binary x)
  | .decimal d => some (.decimal d)
  | _ => none

def isText : Value → Bool
  | .text _ => true
  | _ => false

def isNull : Value → Bool
  | .null => true
  | _ => false

/-- Lists and tuples, the containers addressed by position. -/
def items? : Value → Option (List Value)
  | .list xs => some xs
  | .tuple xs => some xs
  | _ => none

/-- The collections whose members a membership rule takes as its choices. -/
def members? : Value → Option (List Value)
  | .list xs => some xs
  | .tuple xs => some xs
  | .set xs => some xs
  | _ => none

end Value

def Kind.name : Kind → String
  | .null => "NoneType"
  | .bool => "bool"
  | .int => "int"
  | .float => "float"
  | .decimal => "Decimal"
  | .date => "date"
  | .moment => "datetime"
  | .bytes => "bytes"
  | .text => "str"
  | .list => "list"
  | .tuple => "tuple"
  | .set => "set"
  | .dict => "dict"

end Vetting
