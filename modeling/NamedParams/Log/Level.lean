/-! Levels of log events. -/

namespace NamedParams.Log

/-- How grave an event is; errors are the gravest. -/
inductive Level where
  | error
  | warning
  | info
  | debug
  deriving DecidableEq

namespace Level

/-- Every level, the gravest first. -/
def all : List Level := [.error, .warning, .info, .debug]

/-- The place of a level in that order. -/
def rank : Level → Nat
  | .error => 0
  | .warning => 1
  | .info => 2
  | .debug => 3

/-- The label of a level in log lines. -/
def label : Level → String
  | .error => "ERROR"
  | .warning => "WARN"
  | .info => "INFO"
  | .debug => "DEBUG"

/-- The name of a level in configurations. -/
def name : Level → String
  | .error => "Error"
  | .warning => "Warning"
  | .info => "Info"
  | .debug => "Debug"

/-- The level with a given name. -/
def ofName? (name : String) : Option Level := all.find? fun level => level.name = name

/-- The level that a setting asks for, by word or by number; letters of either case count. -/
def ofSetting? (text : String) : Option Level :=
  match text.toLower with
  | "error" | "0" => some .error
  | "warning" | "warn" | "1" => some .warning
  | "info" | "2" => some .info
  | "debug" | "3" => some .debug
  | _ => none

/-- Whether an event of a level passes a minimum level. -/
def passes (level minimum : Level) : Bool := level.rank ≤ minimum.rank

end Level

end NamedParams.Log
