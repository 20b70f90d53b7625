import Vetting.Reading
import Vetting.Rule.Basic

/-!
# Rules that compare

Comparisons read values and arguments loosely, so that the text `18` is the number it
spells. A value that has no order with an argument fails every rule of order.
Membership passes if the value equals one of the choices; the choices can also be
given as one collection.
-/
namespace Vetting.Rules

def xParameter : Parameter := ⟨"x", none, false⟩

def yParameter : Parameter := ⟨"y", none, false⟩

def eq : Rule where
  label := "eq"
  signature := { parameters := [xParameter, messageParameter] }
  run v b := match b.given with
    | [x, message] => do
        .ok (.verdict (← orFail (v.looseEqual x)) message "eq" [("x", x)])
    | _ => misbound

def identical (v x : Value) : Except Fault Bool :=
  if v.kind = x.kind then v.equal x else .ok false

def seq : Rule where
  label := "seq"
  signature := { parameters := [xParameter, messageParameter] }
  run v b := match b.given with
    | [x, message] => do
        .ok (.verdict (← orFail (identical v x)) message "seq" [("x", x)])
    | _ => misbound

/-- Whether a value stands to an argument in one of some orders. -/
def stands (v x : Value) (accepted : List Int) : Except Fault Bool := do
  match ← v.looseCompare x with
  | some o => .ok (accepted.contains o)
  | none => .ok false

def ordered (name : String) (accepted : List Int) : Rule where
  label := name
  signature := { parameters := [xParameter, messageParameter] }
  run v b := match b.given with
    | [x, message] => do
        .ok (.verdict (← orFail (stands v x accepted)) message name [("x", x)])
    | _ => misbound

def gt : Rule := ordered "gt" [1]

def gte : Rule := ordered "gte" [0, 1]

def lt : Rule := ordered "lt" [-1]

def lte : Rule := ordered "lte" [-1, 0]

/-- The upper bound is looked at only if the lower one holds. -/
def isBetween (v x y : Value) : Except Fault Bool := do
  if ← stands v x [0, 1] then stands v y [-1, 0] else .ok false

def between : Rule where
  label := "between"
  signature := { parameters := [xParameter, yParameter, messageParameter] }
  run v b := match b.given with
    | [x, y, message] => do
        .ok (.verdict (← orFail (isBetween v x y)) message "between" [("x", x), ("y", y)])
    | _ => misbound

def choicesOf (args : List Value) : List Value :=
  match args with
  | [one] => (one.members?).getD args
  | _ => args

def isOneOf (strict : Bool) (v : Value) (choices : List Value) : Except Fault Bool :=
  Value.holdsOfOne (if strict then identical v else v.looseEqual) choices

def listed (choices : List Value) : Except Fault String :=
  (choices.mapM Value.toText).map commaJoin

def isIn : Rule where
  label := "in"
  signature := { variadic := true, keywords := [⟨"strict", some (.bool false), false⟩] }
  run v b := match b.named with
    | [strict] => do
        let choices := choicesOf b.rest
        let found ← orFail (isOneOf strict.toBool v choices)
        .ok (.verdict found .null "in" [("x", .text (← orFail (listed choices)))])
    | _ => misbound

end Vetting.Rules
