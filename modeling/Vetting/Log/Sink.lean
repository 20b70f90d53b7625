import Vetting.Chain.World
import Vetting.Config

/-!
# Sinks

A sink writes the records that are severe enough for it. It can be set up to take in the
records of other libraries as well, whose levels have no names but five.
-/
namespace Vetting

structure Sink where
  /-- The least severity that is written. -/
  least : Int
  /-- Whether records of other libraries are taken in. -/
  intercepts : Bool

def settingText (settings : Named Value) (name default : String) : Value :=
  let v := (Named.get? name settings).getD .null
  if v.truth then v else .text default

/-- The severity a setting asks for; everything from debugging on if it names no level. -/
def leastSeverity : Option String → Int
  | some "error" => Level.error.severity
  | some "warning" => Level.warning.severity
  | some "info" => Level.info.severity
  | _ => Level.debug.severity

/-- Sets a sink up. Its format changes nothing about what is written. -/
def Sink.ofSettings (settings : Named Value) (intercepts : Bool) : Except Fault Sink := do
  let level ← (settingText settings "logging_level" "warning").smallLetters
  let _ ← (settingText settings "logging_format" "text").smallLetters
  .ok ⟨leastSeverity level, intercepts⟩

/-- The levels that other libraries have names for. -/
def Level.ofNumber (n : Int) : Level :=
  ([Level.debug, .info, .warning, .error, .critical].find? fun l => l.severity == n).getD
    (.numbered n)

/-- The level that a record of another library is taken in at, if it is. -/
def Sink.intercept? (s : Sink) (n : Int) : Option Level :=
  if s.intercepts && 0 < n then some (.ofNumber n) else none

def Sink.writes (s : Sink) (r : Record) : Bool := s.least ≤ r.level.severity

def Sink.written (s : Sink) (w : World) : List Record := w.records.toList.filter s.writes

end Vetting
