import Vetting.Named
import Vetting.Path
import Vetting.Value.Text

/-!
# Failures

The ways in which an operation can end without a result. Faults come from values
that do not fit and have no words of their own. Everything else is a refusal by the
library: it has a family, a message and a context of named values, all of them
functions of its cause.
-/
namespace Vetting

/-- The families of refusals that callers can tell apart. -/
inductive Family where
  | general
  | validation
  | invalidValue
  | rule
  | ruleNotFound
  | invalidRuleArgument
  | invalidContainer
  | configuration
  | invalidConfiguration
  | catalog
  deriving DecidableEq, Repr

def Family.name : Family → String
  | .general => "AssertationException"
  | .validation => "ValidationException"
  | .invalidValue => "InvalidValueException"
  | .rule => "RuleException"
  | .ruleNotFound => "RuleNotFoundException"
  | .invalidRuleArgument => "InvalidRuleArgumentException"
  | .invalidContainer => "InvalidContainerException"
  | .configuration => "ConfigurationException"
  | .invalidConfiguration => "InvalidConfigurationException"
  | .catalog => "TranslationException"

def Family.parent? : Family → Option Family
  | .general => none
  | .ruleNotFound => some .rule
  | .invalidRuleArgument => some .rule
  | .invalidConfiguration => some .configuration
  | .catalog => some .configuration
  | _ => some .general

/-- The general kind of error that a family also counts as. -/
def Family.alsoKnownAs : Family → List String
  | .invalidValue => ["ValueError"]
  | .ruleNotFound => ["LookupError"]
  | .invalidContainer => ["TypeError"]
  | _ => []

/-- Names under which a family can be caught, the most special first. -/
def Family.lineage (f : Family) : List String :=
  let ancestors := match f.parent? with
    | none => []
    | some p => p.name :: (p.parent?.map Family.name).toList
  f.name :: ancestors ++ f.alsoKnownAs ++ ["Exception", "BaseException", "object"]

def Family.ofName? (s : String) : Option Family :=
  [Family.general, .validation, .invalidValue, .rule, .ruleNotFound, .invalidRuleArgument,
    .invalidContainer, .configuration, .invalidConfiguration, .catalog].find?
      fun f => f.name == s

inductive Failure where
  | fault (f : Fault)
  /-- A write at a path that has no keys. -/
  | emptyPath (path : String)
  /-- A member asked of a node that is neither its own nor a rule. -/
  | unknownMember (name : String)
  /-- A key that cannot be set on a value of this kind. -/
  | cannotAssign (key : Key) (kind : Kind)
  /-- Rules for fields on a value that is no dictionary. -/
  | notAContainer (kind : Kind)
  | notAnInteger (rule : String) (argument : Value)
  | unknownRounding (mode : Value)
  | unknownRule (name : String)
  /-- The first failing check of a chain that does not go on after one. -/
  | failedCheck (message rule : String) (field : Option String)
  /-- A chain found invalid, with the errors of one field. -/
  | invalid (message field : String) (errors : List String)
  | throwEarlyNotBool (value : Value)
  | throwEarlyUnspelled (text : String)
  | unknownLevel (value : Value)
  | unknownFormat (value : Value)
  | catalogMissing (path : String)
  | catalogMalformed (path : String) (caused : Bool)
  | localeMissing (locale : Value) (path : String)
  deriving Inhabited, Repr

def Key.value : Key → Value
  | .name s => .text (String.ofList s)
  | .index n => .int n

/-- Literal of a value whose literal has been found to exist. -/
def Value.literalText (v : Value) : String := v.literal.toOption.getD ""

def optionText : Option String → Value
  | some s => .text s
  | none => .null

def levelNames : List String := ["debug", "info", "warning", "error"]

def formatNames : List String := ["text", "json"]

namespace Failure

def family? : Failure → Option Family
  | .fault _ => none
  | .emptyPath _ => none
  | .unknownMember _ => none
  | .cannotAssign .. => some .invalidContainer
  | .notAContainer _ => some .invalidContainer
  | .notAnInteger .. => some .invalidRuleArgument
  | .unknownRounding _ => some .invalidRuleArgument
  | .unknownRule _ => some .ruleNotFound
  | .failedCheck .. => some .invalidValue
  | .invalid .. => some .validation
  | .throwEarlyNotBool _ => some .invalidConfiguration
  | .throwEarlyUnspelled _ => some .invalidConfiguration
  | .unknownLevel _ => some .invalidConfiguration
  | .unknownFormat _ => some .invalidConfiguration
  | .catalogMissing _ => some .catalog
  | .catalogMalformed .. => some .catalog
  | .localeMissing .. => some .catalog

def message : Failure → String
  | .fault _ => ""
  | .emptyPath path => "Empty path: " ++ (Value.text path).literalText
  | .unknownMember name => "'RuleChain' object has no attribute or rule '" ++ name ++ "'"
  | .cannotAssign key kind => "Cannot set key " ++ key.value.literalText ++ " on " ++ kind.name
  | .notAContainer _ => "Cannot apply assoc rules to a value that is not a mapping."
  | .notAnInteger rule argument =>
      "Rule '" ++ rule ++ "' expects an integer argument, got " ++ argument.literalText
  | .unknownRounding mode => "Unknown rounding mode: " ++ mode.literalText
  | .unknownRule name => "No rule registered under name: " ++ name
  | .failedCheck message _ _ => message
  | .invalid message _ _ => message
  | .throwEarlyNotBool _ => "throw_early must be a boolean"
  | .throwEarlyUnspelled _ => "ASSERTATION_THROW_EARLY must be a boolean value (true/false)"
  | .unknownLevel _ => "logging_level must be one of " ++ commaJoin levelNames
  | .unknownFormat _ => "logging_format must be one of " ++ commaJoin formatNames
  | .catalogMissing path => "Message catalog not found: " ++ path
  | .catalogMalformed .. =>
      "Message catalog must be a mapping of message keys to templates"
  | .localeMissing locale path =>
      "Locale '" ++ (locale.display).toOption.getD "" ++ "' not found in message catalog " ++ path

def context : Failure → Named Value
  | .fault _ => []
  | .emptyPath _ => []
  | .unknownMember _ => []
  | .cannotAssign key kind =>
      [("key", key.value), ("container_type", .text kind.name)]
  | .notAContainer kind => [("value_type", .text kind.name)]
  | .notAnInteger rule argument => [("rule", .text rule), ("argument", argument)]
  | .unknownRounding mode => [("rule", .text "asRound"), ("argument", mode)]
  | .unknownRule name => [("rule", .text name)]
  | .failedCheck _ rule field => [("rule", .text rule), ("attribute", optionText field)]
  | .invalid _ field errors =>
      [("errors", .dict [(.text field, .list (errors.map .text))])]
  | .throwEarlyNotBool value => [("config_key", .text "throw_early"), ("value", value)]
  | .throwEarlyUnspelled text => [("value", .text text)]
  | .unknownLevel value => [("config_key", .text "logging_level"), ("value", value)]
  | .unknownFormat value => [("config_key", .text "logging_format"), ("value", value)]
  | .catalogMissing path => [("path", .text path)]
  | .catalogMalformed path _ => [("path", .text path)]
  | .localeMissing locale path => [("path", .text path), ("locale", locale)]

def hasCause : Failure → Bool
  | .catalogMalformed _ caused => caused
  | _ => false

/-- Refuses an argument that has to be an integer, if the argument can be shown. -/
def refuseInteger (rule : String) (argument : Value) : Failure :=
  match argument.literal with
  | .ok _ => .notAnInteger rule argument
  | .error f => .fault f

def refuseRounding (mode : Value) : Failure :=
  match mode.literal with
  | .ok _ => .unknownRounding mode
  | .error f => .fault f

end Failure

/-- Lets a computation that may run into a fault fail with it. -/
def orFail {α : Type} : Except Fault α → Except Failure α
  | .ok a => .ok a
  | .error f => .error (.fault f)

end Vetting
