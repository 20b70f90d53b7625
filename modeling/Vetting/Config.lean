import Vetting.Failure
import Vetting.Text.Case

/-!
# Configurations

A configuration says whether a chain fails at its first failing check, where messages
come from, and what is recorded. It is made from fields or from the environment, where
empty variables say nothing, except for the one that has to spell a truth value.
-/
namespace Vetting

/-- A value in small letters, which only texts and bytes have. Bytes equal no text. -/
def Value.smallLetters : Value → Except Fault (Option String)
  | .text s => .ok (some (String.ofList (Text.lower s.toList)))
  | .bytes _ => .ok none
  | _ => .error .noMember

structure Config where
  throwEarly : Bool
  messagesFile : Value
  locale : Value
  loggingLevel : Value
  loggingFormat : Value

namespace Config

def defaults : Named Value :=
  [("throw_early", .bool false), ("messages_file", .null), ("locale", .null),
   ("logging_level", .text "warning"), ("logging_format", .text "text")]

def isOneOf (names : List String) (v : Value) : Except Fault Bool :=
  v.smallLetters.map fun s => s.any names.contains

/-- Makes a configuration from values for all fields. -/
def check (throwEarly messagesFile locale level format : Value) : Except Failure Config :=
  match throwEarly with
  | .bool b => do
      if !(← orFail (isOneOf levelNames level)) then .error (.unknownLevel level)
      else if !(← orFail (isOneOf formatNames format)) then .error (.unknownFormat format)
      else .ok ⟨b, messagesFile, locale, level, format⟩
  | v => .error (.throwEarlyNotBool v)

/-- Makes a configuration from some of the fields. Other fields are not known. -/
def ofFields (fields : Named Value) : Except Failure Config :=
  if fields.any fun f => (Named.get? f.1 defaults).isNone then .error (.fault .wrongKind)
  else
    let all := Named.overlay defaults fields
    let get (name : String) : Value := (Named.get? name all).getD .null
    check (get "throw_early") (get "messages_file") (get "locale") (get "logging_level")
      (get "logging_format")

def toNamed (c : Config) : Named Value :=
  [("throw_early", .bool c.throwEarly), ("messages_file", c.messagesFile),
   ("locale", c.locale), ("logging_level", c.loggingLevel),
   ("logging_format", c.loggingFormat)]

/-- The part of a configuration that recording depends on. -/
def logging (c : Config) : Named Value :=
  [("logging_level", c.loggingLevel), ("logging_format", c.loggingFormat)]

def merge (c d : Config) : Except Failure Config :=
  ofFields (Named.overlay c.toNamed (d.toNamed.filter fun f => !f.2.isNull))

def throwEarlyVariable : String := "ASSERTATION_THROW_EARLY"

/-- Variables for fields, each with the field. -/
def fieldVariables : List (String × String) :=
  [("ASSERTATION_MESSAGES_FILE", "messages_file"), ("ASSERTATION_LOCALE", "locale"),
   ("ASSERTATION_LOGGING_LEVEL", "logging_level"),
   ("ASSERTATION_LOGGING_FORMAT", "logging_format")]

/-- The truth value that the environment spells. -/
def spelledThrowEarly (s : String) : Except Failure Bool :=
  let t := String.ofList (Text.lower s.toList)
  if ["true", "1", "yes", "on"].contains t then .ok true
  else if ["false", "0", "no", "off"].contains t then .ok false
  else .error (.throwEarlyUnspelled s)

def environmentFields (env : Named String) : Except Failure (Named Value) := do
  let early ← match Named.get? throwEarlyVariable env with
    | some s => (spelledThrowEarly s).map fun b => [("throw_early", Value.bool b)]
    | none => .ok []
  let others := fieldVariables.filterMap fun v =>
    ((Named.get? v.1 env).filter fun s => !s.isEmpty).map fun s => (v.2, Value.text s)
  .ok (early ++ others)

def ofEnvironment (env : Named String) : Except Failure Config := do
  ofFields (← environmentFields env)

end Config

end Vetting
