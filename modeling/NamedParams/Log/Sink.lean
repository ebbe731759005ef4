import NamedParams.Log.Event

/-! Where log events are written. -/

namespace NamedParams.Log

/-- What is written to the two output streams. -/
structure Output where
  stdout : String
  stderr : String
  deriving DecidableEq

/-- Nothing written. -/
def Output.none : Output := ⟨"", ""⟩

/-- One output after another. -/
def Output.append (first second : Output) : Output :=
  ⟨first.stdout ++ second.stdout, first.stderr ++ second.stderr⟩

/-- A way of writing events. -/
inductive Sink where
  /-- Lines for people. -/
  | console
  /-- Lines of JSON. -/
  | structured
  /-- Nothing is written. -/
  | silent
  deriving DecidableEq

/-- Writes an event; errors and warnings go to the error stream. -/
def Sink.write (sink : Sink) (seconds : Int) (event : Event) : Output :=
  let line := match sink with
    | .console => event.line ++ "\n"
    | .structured => event.jsonLine seconds ++ "\n"
    | .silent => ""
  if event.level.passes .warning then ⟨"", line⟩ else ⟨line, ""⟩

/-- Writes events one after the other. -/
def Sink.writeAll (sink : Sink) (seconds : Int) (events : List Event) : Output :=
  events.foldl (fun output event => output.append (sink.write seconds event)) .none

end NamedParams.Log
