import NamedParams.Preferences

/-! What a process sets up once and for all. -/

namespace NamedParams.Log

/-- Why something cannot be set up. -/
inductive InstallationFault where
  | logInstalled
  | logPreferencesInstalled
  | preferencesInstalled
  deriving DecidableEq

/-- The wording of a fault. -/
def InstallationFault.message : InstallationFault → String
  | .logInstalled => "Global logger already initialized"
  | .logPreferencesInstalled => "Runtime preferences already initialized"
  | .preferencesInstalled => "Parameter preferences already initialized"

/-- What has been set up. -/
structure Installation where
  /-- The minimum level of the log, once there is one. -/
  gate : Gate
  logPreferences : Option LogPreferences
  preferences : Option Preferences

namespace Installation

/-- Nothing has been set up. -/
def empty : Installation := ⟨none, none, none⟩

/-- Sets up the log with a minimum level. -/
def installLog (i : Installation) (minimum : Level) : Except InstallationFault Installation :=
  if i.gate.isSome then .error .logInstalled else .ok { i with gate := some minimum }

/-- Sets the preferences for the log. -/
def installLogPreferences (i : Installation) (p : LogPreferences) :
    Except InstallationFault Installation :=
  if i.logPreferences.isSome then .error .logPreferencesInstalled
  else .ok { i with logPreferences := some p }

/-- Sets the preferences for construction. -/
def installPreferences (i : Installation) (p : Preferences) :
    Except InstallationFault Installation :=
  if i.preferences.isSome then .error .preferencesInstalled
  else .ok { i with preferences := some p }

/-- The preferences for the log in force; without any set, those of the environment. -/
def effectiveLog (i : Installation) (env : Environment) : LogPreferences :=
  i.logPreferences.getD (.ofEnvironment env)

/-- The state of the log for people. -/
def diagnostics (i : Installation) (env : Environment) : String :=
  s!"=== Logging System Diagnostics ===\nInitialized: {flagText i.gate.isSome}\n\n" ++
    (i.effectiveLog env).summary

/-- The event about a log that could not be set up. -/
def failureEvent (fault : InstallationFault) : Event := .error .logSetupFailed fault.message

end Installation

end NamedParams.Log
