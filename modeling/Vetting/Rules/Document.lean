import Vetting.CheckDigit.Luhn
import Vetting.CheckDigit.Taxpayer
import Vetting.Rules.Json

/-!
# Rules on numbers with check digits

Card numbers and the tax numbers of persons and companies. The value becomes the number
itself, tax numbers in their written form unless that is turned off.
-/
namespace Vetting.Rules
open Vetting.CheckDigit

def asCardNumber : Rule where
  label := "asCardNumber"
  signature := {}
  run v b := match b.given with
    | [] => do
        let s ← orFail v.toText
        match cardNumber? s.toList with
        | some ds => .ok (.replaced (.text (String.ofList ds)))
        | none => .ok (failedUnder "asCardNumber")
    | _ => misbound

/-- A rule on a tax number: how it is read and how it is written. -/
def taxpayerRule (name : String) (read : List Char → Option (List Char))
    (write : List Char → List Char) : Rule where
  label := name
  signature := { parameters := [⟨"formatted", some (.bool true), false⟩] }
  run v b := match b.given with
    | [formatted] => do
        let s ← orFail v.toText
        match read s.toList with
        | some ds =>
            .ok (.replaced (.text (String.ofList (if formatted.toBool then write ds else ds))))
        | none => .ok (failedUnder name)
    | _ => misbound

def asCpf : Rule := taxpayerRule "asCpf" person? formatPerson

def asCnpj : Rule := taxpayerRule "asCnpj" company? formatCompany

end Vetting.Rules
