import NamedParams.Log.Sink
import NamedParams.Log.Traced

/-! What a user can set: the behaviour of construction and of the log. -/

namespace NamedParams

/-- The values of environment variables. -/
abbrev Environment := String → Option String

/-- Preferences for construction. -/
structure Preferences where
  /-- Log every attribute that is accepted. -/
  logAttributes : Bool
  /-- Log every parameter that is constructed. -/
  logSuccess : Bool
  /-- Show rejected values in errors. -/
  includeValues : Bool
  deriving DecidableEq

/-- Preferences for the log. -/
structure LogPreferences where
  structured : Bool
  console : Bool
  minimum : Log.Level
  deriving DecidableEq

/-- All preferences. -/
structure Configuration where
  construction : Preferences
  log : LogPreferences
  deriving DecidableEq

/-- The truth value that a setting spells exactly. -/
def flagOfSetting? : String → Option Bool
  | "true" => some true
  | "false" => some false
  | _ => none

/-- A truth value from the environment; a variable that spells none counts as unset. -/
def Environment.flag (env : Environment) (name : String) (fallback : Bool) : Bool :=
  ((env name).bind flagOfSetting?).getD fallback

/-- The preferences for construction that an environment sets. -/
def Preferences.ofEnvironment (env : Environment) : Preferences :=
  { logAttributes := env.flag "RAML_PARAMETER_LOG_ATTRIBUTES" false
    logSuccess := env.flag "RAML_PARAMETER_LOG_SUCCESS" true
    includeValues := env.flag "RAML_PARAMETER_INCLUDE_VALUES" true }

/-- The preferences for the log that an environment sets. -/
def LogPreferences.ofEnvironment (env : Environment) : LogPreferences :=
  { structured := env.flag "RAML_PARAMETER_LOGGING_USE_STRUCTURED" false
    console := env.flag "RAML_PARAMETER_LOGGING_ENABLE_CONSOLE" true
    minimum := ((env "RAML_PARAMETER_LOGGING_MIN_LEVEL").bind Log.Level.ofSetting?).getD .info }

/-- The preferences that an environment sets. -/
def Configuration.ofEnvironment (env : Environment) : Configuration :=
  ⟨.ofEnvironment env, .ofEnvironment env⟩

/-- An environment without any variables. -/
def Environment.empty : Environment := fun _ => none

/-- Where events are written under the preferences. -/
def LogPreferences.sink (p : LogPreferences) : Log.Sink :=
  if !p.console then .silent else if p.structured then .structured else .console

/-- The text of a truth value. -/
def flagText (b : Bool) : String := if b then "true" else "false"

/-- The preferences for people. -/
def LogPreferences.summary (p : LogPreferences) : String :=
  s!"Logging Configuration:\n- Min log level: {p.minimum.name}\n" ++
    s!"- Structured logging: {flagText p.structured}\n- Console logging: {flagText p.console}"

end NamedParams
