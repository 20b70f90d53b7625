import Vetting.Text.Base64
import Vetting.Value.Equality
import Vetting.Yaml.Node
import Vetting.Yaml.Numeral
import Vetting.Yaml.Timestamp

/-!
# Documents

What a document says as a value. Each tag takes nodes of one form only. Mappings become
dictionaries, in which the entries merged from other mappings come first and give way to
the mapping's own. A document without a node is null.
-/
namespace Vetting.Yaml
open Text

def truthNames : List (String × Bool) :=
  [("yes", true), ("no", false), ("true", true), ("false", false), ("on", true), ("off", false)]

def boolOf (s : List Char) : Except Fault Bool :=
  match truthNames.find? fun t => t.1.toList == lower s with
  | some t => .ok t.2
  | none => .error .noKey

def bytesOf (s : List Char) : Except Trouble (List UInt8) :=
  match s.all (fun c => c.toNat < 128), Base64.decode? s with
  | true, some bs => .ok bs
  | _, _ => .error .malformed

def orTrouble {α : Type} : Except Fault α → Except Trouble α
  | .ok a => .ok a
  | .error f => .error (.fault f)

def scalarValue (t : Tag) (s : List Char) : Except Trouble Value :=
  match t with
  | .null => .ok .null
  | .bool => orTrouble ((boolOf s).map .bool)
  | .int => orTrouble ((intOf s).map .int)
  | .float => orTrouble ((floatOf s).map .float)
  | .binary => (bytesOf s).map .bytes
  | .timestamp => orTrouble (timestampOf s)
  | .str => .ok (.text (String.ofList s))
  | _ => .error .malformed

mutual
/-- The text of a scalar, or of the scalar that stands for a mapping. -/
def Node.text? : Node → Option (List Char)
  | .scalar _ s => some s
  | .sequence _ _ => none
  | .mapping _ es => textAmong? es

def textAmong? : List (Node × Node) → Option (List Char)
  | [] => none
  | (k, v) :: rest => if k.tag = .value then v.text? else textAmong? rest
end

def collect (r : List (Value × Value) × List (Value × Value)) : List (Value × Value) :=
  (r.1 ++ r.2).foldl (fun es e => Value.insert e.1 e.2 es) []

mutual
def Node.toValue : Node → Except Trouble Value
  | .scalar t s => scalarValue t s
  | .sequence t items =>
      match t with
      | .seq => (toValues items).map .list
      | .omap => (toPairs items).map .list
      | .pairs => (toPairs items).map .list
      | _ => .error .malformed
  | .mapping t es =>
      match t with
      | .map => (toEntries es).map fun r => .dict (collect r)
      | .set => (toEntries es).map fun r => .set ((collect r).map Prod.fst)
      | _ =>
          match textAmong? es with
          | some s => scalarValue t s
          | none => .error .malformed

def toValues : List Node → Except Trouble (List Value)
  | [] => .ok []
  | n :: rest => do .ok ((← n.toValue) :: (← toValues rest))

def toPairs : List Node → Except Trouble (List Value)
  | [] => .ok []
  | .mapping _ [(k, v)] :: rest => do
      let key ← k.toValue
      let value ← v.toValue
      .ok (.tuple [key, value] :: (← toPairs rest))
  | _ :: _ => .error .malformed

/-- The entries of a mapping: those merged into it, and its own. -/
def toEntries :
    List (Node × Node) → Except Trouble (List (Value × Value) × List (Value × Value))
  | [] => .ok ([], [])
  | (k, v) :: rest =>
      if k.tag = .merge then do
        let more ← merged v
        let r ← toEntries rest
        .ok (more ++ r.1, r.2)
      else do
        let key ← match k with
          | .scalar .value s => .ok (.text (String.ofList s))
          | _ => k.toValue
        if !key.isHashable then .error .malformed
        else
          let value ← v.toValue
          let r ← toEntries rest
          .ok (r.1, (key, value) :: r.2)

/-- The entries that a node gives to a mapping it is merged into. Of several mappings the
first ones go before the others. -/
def merged : Node → Except Trouble (List (Value × Value))
  | .scalar _ _ => .error .malformed
  | .sequence _ items => mergedAll items
  | .mapping _ es => (toEntries es).map fun r => r.1 ++ r.2

def mergedAll : List Node → Except Trouble (List (Value × Value))
  | [] => .ok []
  | .mapping _ es :: rest => do
      let r ← toEntries es
      .ok ((← mergedAll rest) ++ (r.1 ++ r.2))
  | _ :: _ => .error .malformed
end

def read (s : String) : Except Trouble Value := do
  match ← Node.ofTokens (← tokens s.toList) with
  | some n => n.toValue
  | none => .ok .null

end Vetting.Yaml
