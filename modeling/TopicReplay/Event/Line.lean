import TopicReplay.Event
import TopicReplay.Json.Value
import TopicReplay.Time.Rfc3339

/-!
# Event lines

An event is printed on one line, either plainly or as JSON. The plain line holds
the address with the offset, the key and the value between tabs. The JSON line is
an object in which key and value are text and the timestamp is cut to
milliseconds.
-/

namespace TopicReplay

/-- How results are printed. -/
inductive OutputFormat where
  | plain
  | json
  deriving DecidableEq, Repr, Inhabited

namespace Event

/-- The plain line of an event. -/
def plainLine (event : Event) : String :=
  event.place.display ++ "@" ++ Text.integerString event.offset ++ "\t" ++
    event.keyText.getD "" ++ "\t" ++ event.valueText.getD ""

/-- An event as it is printed in JSON. -/
def toPrintedJson (event : Event) : Json :=
  .object [
    ("topic", .string event.topic),
    ("partition", .int event.partition),
    ("offset", .int event.offset),
    ("timestamp", .ofOption (fun t => .string (String.ofList (t.text .millis .letter)))
      event.timestamp),
    ("key", .ofOption .string event.keyText),
    ("value", .ofOption .string event.valueText)]

/-- The JSON line of an event. -/
def jsonLine (event : Event) : String := String.ofList event.toPrintedJson.compact

/-- The line of an event. -/
def line (event : Event) : OutputFormat → String
  | .plain => event.plainLine
  | .json => event.jsonLine

end Event

end TopicReplay
