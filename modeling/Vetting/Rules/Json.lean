import Vetting.Json.Decode
import Vetting.Json.Encode
import Vetting.Reading
import Vetting.Rule.Basic

/-!
# Rules on JSON

Encoding and decoding fail as checks when the value has no JSON form, or its text is
none. A text in which an integer has too many digits is a fault instead.
-/
namespace Vetting.Rules

/-- The outcome of a rule that could not make a new value. -/
def failedUnder (name : String) : Outcome := .verdict false .null name []

def asJsonEncode : Rule where
  label := "asJsonEncode"
  signature := {}
  run v b := match b.given with
    | [] =>
        match Json.encode? v with
        | some s => .ok (.replaced (.text s))
        | none => .ok (failedUnder "asJsonEncode")
    | _ => misbound

def asJsonDecode : Rule where
  label := "asJsonDecode"
  signature := {}
  run v b := match b.given with
    | [] => do
        let s ← orFail v.toText
        match Json.decode s with
        | .ok w => .ok (.replaced w)
        | .error .malformed => .ok (failedUnder "asJsonDecode")
        | .error .tooManyDigits => .error (.fault .badValue)
    | _ => misbound

end Vetting.Rules
