import NamedParams.Json.Reader
import NamedParams.Json.Writer
import NamedParams.Preferences

/-! Preferences as JSON text. -/

namespace NamedParams

open Json (Cursor)

/-- An object with its fields in the given order. -/
def orderedObject (fields : List (String × String)) : String :=
  "\x7b" ++ ",".intercalate (fields.map fun f => Json.quote f.1 ++ ":" ++ f.2) ++ "\x7d"

/-- The text of all preferences, in the order in which they are documented. -/
def Configuration.text (c : Configuration) : String :=
  orderedObject [
    ("parameters", orderedObject [
      ("log_attribute_validation", flagText c.construction.logAttributes),
      ("log_construction_success", flagText c.construction.logSuccess),
      ("include_values_in_errors", flagText c.construction.includeValues)]),
    ("logging", orderedObject [
      ("use_structured_logging", flagText c.log.structured),
      ("enable_console_logging", flagText c.log.console),
      ("min_log_level", Json.quote c.log.minimum.name)])]

namespace Configuration

/-- The value of one field. -/
inductive Field where
  | flag (value : Bool)
  | level (value : Log.Level)
  | construction (value : Preferences)
  | log (value : LogPreferences)

/-- A field that can be read: its name, and how its value is read. -/
structure FieldReader where
  name : String
  read : Cursor → Option (Field × Cursor)

/-- Reads a truth value. -/
def readFlag (c : Cursor) : Option (Field × Cursor) :=
  let c := c.skipSpace
  match c.rest with
  | 't' :: _ => (c.drop.word ['r', 'u', 'e']).toOption.map (.flag true, ·)
  | 'f' :: _ => (c.drop.word ['a', 'l', 's', 'e']).toOption.map (.flag false, ·)
  | _ => none

/-- Reads the name of a level, behind its opening quote. -/
def readLevelName (c : Cursor) : Option (Log.Level × Cursor) := do
  let (name, c) ← (c.string .decode).toOption
  pure (← Log.Level.ofName? name, c)

/-- Reads a level: its name, or an object that binds its name to null. -/
def readLevel (c : Cursor) : Option (Field × Cursor) :=
  let c := c.skipSpace
  match c.rest with
  | '"' :: _ => do
    let (level, c) ← readLevelName c.drop
    pure (.level level, c)
  | '\x7b' :: _ =>
    let c := c.drop.skipSpace
    match c.rest with
    | '"' :: _ => do
      let (level, c) ← readLevelName c.drop
      let c := (← c.colon.toOption).skipSpace
      match c.rest with
      | 'n' :: _ =>
        let c := (← (c.drop.word ['u', 'l', 'l']).toOption).skipSpace
        match c.rest with
        | '\x7d' :: _ => pure (.level level, c.drop)
        | _ => none
      | _ => none
    | _ => none
  | _ => none

/-- Reads the values of fields in their order, up to the closing bracket. -/
def readOrdered : List FieldReader → Bool → Cursor → Option (List (String × Field) × Cursor)
  | [], first, c =>
    match c.nextItem first with
    | .ok (false, c) => some ([], c)
    | _ => none
  | reader :: others, first, c =>
    match c.nextItem first with
    | .ok (true, c) => do
      let (value, c) ← reader.read c
      let (rest, c) ← readOrdered others false c
      pure ((reader.name, value) :: rest, c)
    | _ => none

/-- Reads fields by name, up to the closing brace; unknown ones are passed over. -/
def readNamed (readers : List FieldReader) :
    Nat → Bool → Cursor → List (String × Field) → Option (List (String × Field) × Cursor)
  | 0, _, _, _ => none
  | fuel + 1, first, c, fields =>
    match c.nextKey first with
    | .ok (false, c) => some (fields, c)
    | .ok (true, c) => do
      let (name, c) ← (c.string .decode).toOption
      let c ← c.colon.toOption
      match readers.find? fun reader => reader.name = name with
      | none =>
        let c ← c.skipValue.toOption
        readNamed readers fuel false c fields
      | some reader =>
        -- No field may occur twice.
        if fields.any fun field => field.1 = name then none
        else
          let (value, c) ← reader.read c
          readNamed readers fuel false c ((name, value) :: fields)
    | .error _ => none

/-- Reads fields, in an array by their order and in an object by their names. -/
def readFields (readers : List FieldReader) (c : Cursor) :
    Option (List (String × Field) × Cursor) :=
  let c := c.skipSpace
  match c.rest with
  | '[' :: _ => readOrdered readers true c.drop
  | '\x7b' :: _ => readNamed readers (c.rest.length + 1) true c.drop []
  | _ => none

/-- A truth value among fields. -/
def flagOf? (fields : List (String × Field)) (name : String) : Option Bool :=
  match fields.lookup name with
  | some (.flag value) => some value
  | _ => none

/-- Reads preferences for construction; none may be missing. -/
def readConstruction (c : Cursor) : Option (Field × Cursor) := do
  let (fields, c) ← readFields [
    ⟨"log_attribute_validation", readFlag⟩,
    ⟨"log_construction_success", readFlag⟩,
    ⟨"include_values_in_errors", readFlag⟩] c
  pure (.construction {
    logAttributes := ← flagOf? fields "log_attribute_validation"
    logSuccess := ← flagOf? fields "log_construction_success"
    includeValues := ← flagOf? fields "include_values_in_errors" }, c)

/-- Reads preferences for the log; none may be missing. -/
def readLog (c : Cursor) : Option (Field × Cursor) := do
  let (fields, c) ← readFields [
    ⟨"use_structured_logging", readFlag⟩,
    ⟨"enable_console_logging", readFlag⟩,
    ⟨"min_log_level", readLevel⟩] c
  match fields.lookup "min_log_level" with
  | some (.level minimum) =>
    pure (.log {
      structured := ← flagOf? fields "use_structured_logging"
      console := ← flagOf? fields "enable_console_logging"
      minimum := minimum }, c)
  | _ => none

/-- The preferences that a text sets; all of them must be there. -/
def read? (text : String) : Option Configuration := do
  let (fields, c) ← readFields
    [⟨"parameters", readConstruction⟩, ⟨"logging", readLog⟩] (Cursor.start text)
  c.finish.toOption
  match fields.lookup "parameters", fields.lookup "logging" with
  | some (.construction construction), some (.log log) => pure ⟨construction, log⟩
  | _, _ => none

end Configuration

end NamedParams
