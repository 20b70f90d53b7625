import Vetting.Failure
import Vetting.Template.Render

/-!
# Translators

A translator renders the message of a failed check from its key and named values. It
has templates under keys, which may ask for members of the values, or none at all, or
makes a message in a way of its own; where it has none for a key there is no message, and
the key stands in for it.
-/
namespace Vetting

inductive Translator where
  | silent
  | catalog (members : Template.Members) (templates : Named Value)
  /-- Any other one: all that it is asked is a key and named values. -/
  | custom (answer : Value → Named Value → Except Fault (Option String))

/-- The key under which the message of an invalid chain is looked up. -/
def invalidKey : String := "validate"

def invalidMessage : String := "Validation check failed"

def withX (before after : String) : String := before ++ "\x7bx\x7d" ++ after

def withXY (before after : String) : String :=
  before ++ "\x7bx\x7d and \x7by\x7d" ++ after

def defaultMessages : Named String :=
  [(invalidKey, invalidMessage),
   ("eq", withX "must be equal to " ""),
   ("seq", withX "must be identical to " ""),
   ("between", withXY "must be between " ""),
   ("gt", withX "must be greater than " ""),
   ("gte", withX "must be greater than or equal to " ""),
   ("lt", withX "must be less than " ""),
   ("lte", withX "must be less than or equal to " ""),
   ("in", withX "must be one of: " ""),
   ("lbetween", withXY "must be between " " characters long"),
   ("lgt", withX "must be longer than " " characters"),
   ("lgte", withX "must be at least " " characters long"),
   ("llt", withX "must be shorter than " " characters"),
   ("llte", withX "must be at most " " characters long"),
   ("array", "must be an array"),
   ("string", "must be a string"),
   ("boolean", "must be a boolean"),
   ("integer", "must be an integer"),
   ("numeric", "must be numeric"),
   ("float", "must be a float"),
   ("null", "must be null"),
   ("req", "is required"),
   ("date", "must be a date"),
   ("email", "must be a valid email address"),
   ("ip", "must be a valid IP address"),
   ("ipv4", "must be a valid IPv4 address"),
   ("ipv6", "must be a valid IPv6 address"),
   ("domain", "must be a valid domain name"),
   ("url", "must be a valid URL"),
   ("digits", "must contain only digits"),
   ("alpha", "must contain only letters"),
   ("alphanumeric", "must contain only letters and digits"),
   ("currency", "must be a valid currency code"),
   ("country2", "must be a valid two-letter country code"),
   ("country3", "must be a valid three-letter country code"),
   ("asJsonEncode", "must be JSON encodable"),
   ("asJsonDecode", "must be valid JSON"),
   ("asDecimal", "must be a decimal number"),
   ("asCardNumber", "must be a valid card number"),
   ("asCpf", "must be a valid CPF"),
   ("asCnpj", "must be a valid CNPJ")]

def textTemplates (messages : Named String) : Named Value :=
  messages.map fun m => (m.1, .text m.2)

namespace Translator

/-- The standard templates ask for no members. -/
def standard : Translator := .catalog .none (textTemplates defaultMessages)

/-- The template for a key; null counts as none. A key that could not be a key of a
dictionary is a fault. -/
def template? (templates : Named Value) (key : Value) : Except Fault (Option Value) :=
  if key.isHashable then
    match key with
    | .text s => .ok ((Named.get? s templates).filter fun v => !v.isNull)
    | _ => .ok none
  else .error .wrongKind

def translate (t : Translator) (key : Value) (context : Named Value) :
    Except Fault (Option String) :=
  match t with
  | .silent => .ok none
  | .catalog members templates => do
      match ← template? templates key with
      | none => .ok none
      | some (.text s) => (Template.render members context s).map some
      | some _ => .error .noMember
  | .custom answer => answer key context

end Translator

end Vetting
