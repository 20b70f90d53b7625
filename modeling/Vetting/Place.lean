import Vetting.Failure
import Vetting.Value.Equality

/-!
# Places in containers

A slot is a resolved step: the entry of a dictionary or the position in a list or a
tuple. Reading and writing resolve a key to a slot by rules of their own. A reading
takes a name that is there, then the number it spells; and it counts negative
positions from the end. A writing prefers the number that a name spells when that
is there, and takes only names made of digit signs as positions, which may lie
beyond the end of a list.

`Value.get?` and `Value.setAt` follow whole paths. A write that fails half way leaves
the containers that it has made so far.
-/
namespace Vetting
open Text Number

inductive Slot where
  | entry (key : Value)
  | item (i : Nat)
  deriving Inhabited, Repr

/-- The integer that a name made of digit signs spells; a fault if it spells none. -/
def spelledIndex (s : List Char) : Except Fault Int :=
  match readInt? s with
  | some n => .ok n
  | none => .error .badValue

namespace Value

/-- Position that a possibly negative integer names in a sequence. -/
def position? (size : Nat) (n : Int) : Option Nat :=
  let i := if n < 0 then n + size else n
  if 0 ≤ i ∧ i < size then some i.toNat else none

def readPosition? (size : Nat) : Key → Option Nat
  | .index n => position? size n
  | .name s => (readInt? s).bind (position? size)

def readSlot (v : Value) (k : Key) : Except Fault (Option Slot) :=
  match v with
  | .dict es =>
      if (lookup k.value es).isSome then .ok (some (.entry k.value))
      else match k with
        | .index _ => .ok none
        | .name s =>
            if isDigitText s then do
              let n ← spelledIndex s
              .ok (if (lookup (.int n) es).isSome then some (.entry (.int n)) else none)
            else .ok none
  | .list xs => .ok ((readPosition? xs.length k).map .item)
  | .tuple xs => .ok ((readPosition? xs.length k).map .item)
  | _ => .ok none

def atSlot? (v : Value) (s : Slot) : Option Value :=
  match v, s with
  | .dict es, .entry k => lookup k es
  | .list xs, .item i => xs[i]?
  | .tuple xs, .item i => xs[i]?
  | _, _ => none

/-- A list with a value at a position, filled up with nulls below it. -/
def padSet (xs : List Value) (i : Nat) (w : Value) : List Value :=
  if i < xs.length then xs.set i w else xs ++ List.replicate (i - xs.length) .null ++ [w]

def putSlot (v : Value) (s : Slot) (w : Value) : Value :=
  match v, s with
  | .dict es, .entry k => .dict (insert k w es)
  | .list xs, .item i => .list (padSet xs i w)
  | .tuple xs, .item i => .tuple (xs.set i w)
  | v, _ => v

/-- Most items that a list can have, at eight addresses each. -/
def itemLimit : Nat := Nat.pow 2 60 - 1

/-- A position in a list, or one that the list can be filled up to. -/
def writePosition (size : Nat) (n : Int) : Except Failure Slot :=
  if (size : Int) ≤ n ∧ (itemLimit : Int) ≤ n then .error (.fault .tooLarge)
  else .ok (.item n.toNat)

def writeSlot (v : Value) (k : Key) : Except Failure Slot :=
  match v, k with
  | .dict _, .index n => .ok (.entry (.int n))
  | .dict es, .name s =>
      if isDigitText s then do
        let n ← orFail (spelledIndex s)
        .ok (.entry (if (lookup (.int n) es).isSome then .int n else k.value))
      else .ok (.entry k.value)
  | .list xs, .index n => writePosition xs.length n
  | .list xs, .name s =>
      if isDigitText s then do
        let n ← orFail (spelledIndex s)
        writePosition xs.length n
      else .error (.cannotAssign k v.kind)
  | _, _ => .error (.cannotAssign k v.kind)

/-- Follows keys from a value. None as soon as one names nothing. -/
def get? (v : Value) : List Key → Except Fault (Option Value)
  | [] => .ok (some v)
  | k :: ks => do
      match ← v.readSlot k with
      | none => .ok none
      | some s =>
          match v.atSlot? s with
          | none => .ok none
          | some w => get? w ks

/-- The container that a missing step is filled with: a list where the next step is
an index. -/
def fresh : Key → Value
  | .index _ => .list []
  | .name _ => .dict []

/-- What a key leads to on the way to a write; null where it leads nowhere. -/
def child (v : Value) (k : Key) : Except Fault (Option Slot × Value) := do
  match ← v.readSlot k with
  | none => .ok (none, .null)
  | some s => .ok (some s, (v.atSlot? s).getD .null)

/-- Writes a value at keys. The value is returned as the write leaves it, also when
the write fails. -/
def setAt (v : Value) (w : Value) : List Key → Value × Except Failure Unit
  | [] => (v, .ok ())
  | [k] =>
      match v.writeSlot k with
      | .error f => (v, .error f)
      | .ok s => (v.putSlot s w, .ok ())
  | k :: next :: ks =>
      match v.child k with
      | .error f => (v, .error (.fault f))
      | .ok (read, found) =>
          match read, found.isNull with
          | some s, false =>
              let r := setAt found w (next :: ks)
              (v.putSlot s r.1, r.2)
          | _, _ =>
              match v.writeSlot k with
              | .error f => (v, .error f)
              | .ok s =>
                  let r := setAt (fresh next) w (next :: ks)
                  (v.putSlot s r.1, r.2)

theorem writePosition_family {size : Nat} {n : Int} {f : Failure}
    (h : writePosition size n = .error f) :
    f.family? = none ∨ f.family? = some .invalidContainer := by
  unfold writePosition at h
  split at h
  · cases h
    exact Or.inl rfl
  · cases h

theorem writeSlot_family {v : Value} {k : Key} {f : Failure} (h : v.writeSlot k = .error f) :
    f.family? = none ∨ f.family? = some .invalidContainer := by
  unfold writeSlot at h
  split at h
  · cases h
  · rename_i s
    split at h
    · cases hs : spelledIndex s with
      | error e =>
          rw [hs] at h
          cases h
          exact Or.inl rfl
      | ok n =>
          rw [hs] at h
          cases h
    · cases h
  · exact writePosition_family h
  · rename_i s
    split at h
    · cases hs : spelledIndex s with
      | error e =>
          rw [hs] at h
          cases h
          exact Or.inl rfl
      | ok n =>
          rw [hs] at h
          exact writePosition_family h
    · cases h
      exact Or.inr rfl
  · cases h
    exact Or.inr rfl

/-- A write that fails runs into a fault or into something that is no container. -/
theorem setAt_family {v w : Value} {ks : List Key} {f : Failure}
    (h : (v.setAt w ks).2 = .error f) :
    f.family? = none ∨ f.family? = some .invalidContainer := by
  induction ks generalizing v with
  | nil => cases h
  | cons k rest ih =>
      cases rest with
      | nil =>
          rw [setAt] at h
          split at h
          · rename_i hs
            cases h
            exact writeSlot_family hs
          · cases h
      | cons next more =>
          rw [setAt] at h
          split at h
          · cases h
            exact Or.inl rfl
          · split at h
            · exact ih h
            · split at h
              · rename_i hs
                cases h
                exact writeSlot_family hs
              · exact ih h

end Value

namespace Path

/-- The value at a path, or the default where the path leads nowhere. -/
def read (path : String) (v default : Value) : Except Fault Value :=
  match keys? path with
  | none => .error .badValue
  | some ks => (v.get? ks).map (·.getD default)

/-- Writes at a path, making containers where there are none on the way. -/
def write (path : String) (v w : Value) : Value × Except Failure Unit :=
  match keys? path with
  | none => (v, .error (.fault .badValue))
  | some [] => (v, .error (.emptyPath path))
  | some ks => v.setAt w ks

theorem write_family {path : String} {v w : Value} {f : Failure}
    (h : (write path v w).2 = .error f) :
    f.family? = none ∨ f.family? = some .invalidContainer := by
  unfold write at h
  split at h
  · cases h
    exact Or.inl rfl
  · cases h
    exact Or.inl rfl
  · exact Value.setAt_family h

end Path

end Vetting
