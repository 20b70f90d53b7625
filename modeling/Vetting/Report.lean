import Vetting.Failure
import Vetting.Pattern.Match
import Vetting.Pattern.Parse
import Vetting.Value.Equality

/-!
# Reports

A refusal is reported with a message, a context of values and perhaps the text of the
error that brought it about. Before a context goes where others can see it, it is
redacted: entries whose names promise a secret are filtered as a whole, and from texts
everything that looks like a secret is cut out.
-/
namespace Vetting
open Pattern

abbrev Entries := List (Value × Value)

structure Report where
  family : Family
  message : String
  context : Entries
  cause : Option String

def secretNames : List String :=
  ["password", "passwd", "pwd", "secret", "api_key", "token", "auth", "authorization",
   "credential", "card_number", "cvv", "cpf", "cnpj"]

def filtered : String := "[FILTERED]"

/-- What secrets look like, in letters of either case: a password that is assigned, names
with passwords in locators, tokens of bearers, and numbers of cards. -/
def secretForms : List String :=
  ["password=[\\w\\-_]+", "://[^:]+:[^@]+@", "Bearer\\s+[\\w\\-_\\.]+",
   "\\b\\d\x7b13,19\x7d\\b"]

def secretPatterns : List Regex :=
  secretForms.filterMap fun s => (Regex.parse ("(?i)" ++ s).toList).toOption

/-- Cuts everything out of a text that looks like a secret, one form after the other. -/
def redact (s : String) : String :=
  String.ofList
    (secretPatterns.foldl (fun t p => p.replace none (fun _ => filtered.toList) t) s.toList)

/-- Whether the name of an entry promises a secret. Only texts and bytes can be names. -/
def isSecretName : Value → Except Fault Bool
  | .text s => .ok (secretNames.contains (String.ofList (Text.lower s.toList)))
  | .bytes _ => .ok false
  | _ => .error .noMember

def redactValue : Value → Value
  | .text s => .text (redact s)
  | v => v

def redactEntry (e : Value × Value) : Except Fault (Value × Value) := do
  if ← isSecretName e.1 then .ok (e.1, .text filtered) else .ok (e.1, redactValue e.2)

namespace Report

def errorsKey : Value := .text "errors"

/-- The report of an invalid chain, whose errors go into its context. -/
def ofErrors (message : String) (errors context : Entries) (cause : Option String) : Report :=
  ⟨.validation, message, Value.insert errorsKey (.dict errors) context, cause⟩

def redacted (r : Report) : Except Fault Entries := r.context.mapM redactEntry

/-- A report in one line. The message is shown as it stands. -/
def literal (r : Report) : Except Fault String := do
  let context ← if r.context.isEmpty then .ok ""
    else (Value.dict r.context).literal.map (", context=" ++ ·)
  .ok (r.family.name ++ "('" ++ r.message ++ "'" ++ context ++ ")")

end Report

end Vetting
