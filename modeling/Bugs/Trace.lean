import Bugs.Json
import Bugs.Text.Space

/-!
# The trace log

A trace log keeps the events of a recognition in the order in which they were recorded.
Each log has a threshold: an event of a lower level is dropped and takes no number, so the
numbers of the kept events run from one without a gap.
-/

namespace Bugs

/-- How grave an event is, from the least to the gravest. -/
inductive Level where
  | debug
  | info
  | warn
  | error
deriving Repr, DecidableEq

namespace Level

/-- The name of a level. -/
def name : Level → String
  | debug => "debug"
  | info => "info"
  | warn => "warn"
  | error => "error"

/-- The place of a level in the order of gravity. -/
def rank : Level → Nat
  | debug => 0
  | info => 1
  | warn => 2
  | error => 3

/-- Reads a level from its name in any case and with white space around it. Any other
text means the level of information. -/
def ofText (text : String) : Level :=
  let word := Text.trim (Text.lower text)
  [debug, info, warn, error].find? (·.name = word) |>.getD info

end Level

/-- An event of a trace log. -/
structure TraceEvent where
  /-- The place of the event among those kept since the last reset, from one. -/
  number : Nat
  level : Level
  message : String
  fields : Option Json

namespace TraceEvent

/-- A number with at least four digits. -/
def paddedNumber (number : Nat) : String :=
  let digits := toString number
  String.ofList (List.replicate (4 - digits.length) '0') ++ digits

/-- The name by which an event is known. -/
def id (event : TraceEvent) : String :=
  "trace:" ++ paddedNumber event.number

/-- The event as a record of its four parts; without fields there are three. -/
def toJson (event : TraceEvent) : Json :=
  .object <|
    [("id", .string event.id), ("level", .string event.level.name),
      ("message", .string event.message)] ++
      (event.fields.map fun fields ↦ ("fields", fields)).toList

/-- The value under `line` in the fields of an event, unless it is null. -/
def line? (event : TraceEvent) : Option Json :=
  match event.fields with
  | some (.object fields) =>
    match fields.find? (·.1 = "line") with
    | some (_, .null) => none
    | some (_, value) => some value
    | none => none
  | _ => none

/-- The event in one line: its name, its level in five columns and its message, followed
by the line of the text where the fields give one. -/
def text (event : TraceEvent) : String :=
  let level := event.level.name
  let column := level ++ String.ofList (List.replicate (5 - level.length) ' ')
  let place :=
    match event.line? with
    | some line => " (line " ++ line.plainText ++ ")"
    | none => ""
  event.id ++ " " ++ column ++ " " ++ event.message ++ place

end TraceEvent

/-- The events kept since the last reset, oldest first. -/
structure TraceLog where
  threshold : Level
  events : Array TraceEvent

namespace TraceLog

/-- A log without events that keeps what is at least as grave as its threshold. -/
def empty (threshold : Level) : TraceLog :=
  ⟨threshold, #[]⟩

/-- Forgets every event; the numbers start again from one. -/
def reset (log : TraceLog) : TraceLog :=
  .empty log.threshold

/-- The event that a record would add, unless the threshold drops it. -/
def event? (log : TraceLog) (level : Level) (message : String) (fields : Option Json) :
    Option TraceEvent :=
  if level.rank < log.threshold.rank then none
  else some ⟨log.events.size + 1, level, message, fields⟩

/-- Records an event. -/
def record (log : TraceLog) (level : Level) (message : String) (fields : Option Json) :
    TraceLog :=
  match log.event? level message fields with
  | some event => { log with events := log.events.push event }
  | none => log

/-- How many events are kept, in all or of one level. -/
def count (log : TraceLog) : Option Level → Nat
  | none => log.events.size
  | some level => log.events.toList.countP (·.level = level)

/-- The events as records. -/
def toJson (log : TraceLog) : Json :=
  .array (log.events.toList.map TraceEvent.toJson)

/-- The events, one a line. -/
def text (log : TraceLog) : String :=
  String.intercalate "\n" (log.events.toList.map TraceEvent.text)

end TraceLog

end Bugs
