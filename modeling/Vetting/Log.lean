/-!
# Records

What happens is recorded as messages with a level and with the mark of the validation
during which they arose. Levels are ordered by their severity; a level without a name
of its own is named by its number.
-/
namespace Vetting

inductive Level where
  | trace | debug | info | success | warning | error | critical
  | numbered (n : Int)
  deriving DecidableEq, Repr

def Level.severity : Level → Int
  | .trace => 5
  | .debug => 10
  | .info => 20
  | .success => 25
  | .warning => 30
  | .error => 40
  | .critical => 50
  | .numbered n => n

def Level.name : Level → String
  | .trace => "TRACE"
  | .debug => "DEBUG"
  | .info => "INFO"
  | .success => "SUCCESS"
  | .warning => "WARNING"
  | .error => "ERROR"
  | .critical => "CRITICAL"
  | .numbered n => "Level " ++ toString n

def Level.all : List Level := [.trace, .debug, .info, .success, .warning, .error, .critical]

def Level.ofName? (s : String) : Option Level := Level.all.find? fun l => l.name == s

/-- What tells validations apart in records: a text that was set, or a text made up when
a chain was started, which nothing depends on. -/
inductive Mark where
  | given (s : String)
  | fresh
  deriving DecidableEq, Repr

structure Record where
  level : Level
  mark : Mark
  message : String
  deriving DecidableEq, Repr

end Vetting
