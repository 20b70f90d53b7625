import Vetting.Value.Equality

/-!
# Order of values

`precedes v w` says whether `v` comes before `w`, or that the two have no order. Lists
and tuples are ordered by their first unequal items, which need an order of their
own; sets by proper containment. Numbers are ordered by value, a NaN coming neither
before nor after anything. With a decimal in a comparison a NaN is an error instead.
-/
namespace Vetting
open Number

def Number.precedes (a b : Number) : Except Fault Bool :=
  match a.order? b with
  | some o => .ok (o == .lt)
  | none =>
      match a, b with
      | .decimal _, _ => .error .noResult
      | _, .decimal _ => .error .noResult
      | _, _ => .ok false

def keyBelow : List Int → List Int → Bool
  | x :: xs, y :: ys => if x = y then keyBelow xs ys else x < y
  | _, _ => false

def bytesBelow : List UInt8 → List UInt8 → Bool
  | [], [] => false
  | [], _ :: _ => true
  | _ :: _, [] => false
  | x :: xs, y :: ys => if x = y then bytesBelow xs ys else x < y

def textBelow : List Char → List Char → Bool
  | [], [] => false
  | [], _ :: _ => true
  | _ :: _, [] => false
  | x :: xs, y :: ys => if x = y then textBelow xs ys else x.toNat < y.toNat

namespace Value

mutual
/-- Whether a value comes before another; none when the two have no order. -/
def precedes : Value → Value → Except Fault (Option Bool)
  | .null, _ => .ok none
  | .bool a, w => precedesNumber (.int (if a then 1 else 0)) w
  | .int a, w => precedesNumber (.int a) w
  | .float a, w => precedesNumber (.binary a) w
  | .decimal a, w => precedesNumber (.decimal a) w
  | .date a, w => match w with
    | .date b => .ok (some (keyBelow a.toKey b.toKey))
    | _ => .ok none
  | .moment a, w => match w with
    | .moment b =>
        if a.offset.isSome = b.offset.isSome then .ok (some (keyBelow a.toKey b.toKey))
        else .ok none
    | _ => .ok none
  | .bytes a, w => match w with
    | .bytes b => .ok (some (bytesBelow a b))
    | _ => .ok none
  | .text a, w => match w with
    | .text b => .ok (some (textBelow a.toList b.toList))
    | _ => .ok none
  | .list xs, w => match w with
    | .list ys => precedesItems xs ys
    | _ => .ok none
  | .tuple xs, w => match w with
    | .tuple ys => precedesItems xs ys
    | _ => .ok none
  | .set xs, w => match w with
    | .set ys => do
        if xs.length < ys.length then .ok (some (← containedIn xs ys)) else .ok (some false)
    | _ => .ok none
  | .dict _, _ => .ok none

/-- By the first unequal items, a shorter list coming before its extensions. -/
def precedesItems : List Value → List Value → Except Fault (Option Bool)
  | [], ys => .ok (some (!ys.isEmpty))
  | x :: xs, ws => match ws with
    | [] => .ok (some false)
    | y :: ys => do
        if ← equal x y then precedesItems xs ys else precedes x y

def precedesNumber (a : Number) (w : Value) : Except Fault (Option Bool) :=
  match w.number? with
  | some b => (a.precedes b).map some
  | none => .ok none
end

end Value

end Vetting
