import Vetting.Template.Render

/-!
# Members of values

The members of numbers, dates and moments that are values themselves, and the kind that
every value has. A kind can be displayed and named, and has a kind too. What values can do
is not among these members.
-/
namespace Vetting.Template
open Number

def dateMember? (d : Date) (name : String) : Option Value :=
  match name with
  | "year" => some (.int d.year)
  | "month" => some (.int d.month)
  | "day" => some (.int d.day)
  | "min" => some (.date ⟨1, 1, 1⟩)
  | "max" => some (.date ⟨9999, 12, 31⟩)
  | _ => none

def momentMember? (t : Moment) (name : String) : Option Value :=
  match name with
  | "hour" => some (.int t.hour)
  | "minute" => some (.int t.minute)
  | "second" => some (.int t.second)
  | "microsecond" => some (.int t.micro)
  | "fold" => some (.int 0)
  | "min" => some (.moment ⟨⟨1, 1, 1⟩, 0, 0, 0, 0, none⟩)
  | "max" => some (.moment ⟨⟨9999, 12, 31⟩, 23, 59, 59, 999999, none⟩)
  | "tzinfo" =>
      some (match t.offset with
        | some o => .text (String.ofList (zoneName o))
        | none => .null)
  | _ => dateMember? t.date name

def intMember? (n : Int) (name : String) : Option Value :=
  match name with
  | "real" => some (.int n)
  | "imag" => some (.int 0)
  | "numerator" => some (.int n)
  | "denominator" => some (.int 1)
  | _ => none

def valueMember? (v : Value) (name : String) : Option Value :=
  match v with
  | .bool b => intMember? (if b then 1 else 0) name
  | .int n => intMember? n name
  | .float x =>
      match name with
      | "real" => some (.float x)
      | "imag" => some (.float (.zero false))
      | _ => none
  | .decimal d =>
      match name with
      | "real" => some (.decimal d)
      | "imag" => some (.decimal (.finite false 0 0))
      | _ => none
  | .date d => dateMember? d name
  | .moment t => momentMember? t name
  | _ => none

/-- The kind of a value. The basic kinds are in one group, and the others have their own. -/
def kindOf (v : Value) : Thing :=
  let group := match v.kind with
    | .decimal => "decimal"
    | .date => "datetime"
    | .moment => "datetime"
    | _ => "builtins"
  ⟨group, v.kind.name⟩

def kindMember? (k : Thing) (name : String) : Option Referent :=
  match name with
  | "__class__" => some (.thing ⟨"builtins", "type"⟩)
  | "__name__" => some (.value (.text k.name))
  | "__qualname__" => some (.value (.text k.name))
  | "__module__" => some (.value (.text k.group))
  | _ => none

def referentMember? (r : Referent) (name : String) : Option Referent :=
  match r with
  | .value v =>
      if name == "__class__" then some (.thing (kindOf v))
      else (valueMember? v name).map .value
  | .thing k => kindMember? k name

def kindText (k : Thing) : String :=
  "<class '" ++ (if k.group == "builtins" then "" else k.group ++ ".") ++ k.name ++ "'>"

/-- Kinds are the only things. They can be displayed, but not laid out, and have no parts. -/
def Members.usual : Members where
  member r name :=
    match referentMember? r name with
    | .some w => .ok w
    | .none => .error .noMember
  item _ _ := .error .wrongKind
  index _ _ := .error .wrongKind
  display k := .ok (kindText k)
  literal k := .ok (kindText k)
  layOut k layout := if layout.isEmpty then .ok (kindText k).toList else .error .wrongKind

end Vetting.Template
