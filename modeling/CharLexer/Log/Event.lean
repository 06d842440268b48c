import CharLexer.Limits
import CharLexer.Log.Code
import CharLexer.Log.Level
import CharLexer.Log.Timestamp
import CharLexer.Token.Json

/-!
# Log events

An event has a level, a code and a message, and may have a location and pairs of context. Its
message is cut to the limit when it is raised. With the moment at which it is written it becomes a
line of text, or an object of JSON whose keys ascend and which gives the last value of a key of the
context attached more than once.
-/
namespace CharLexer.Log

/-- Something worth telling. -/
structure Event where
  level : Level
  code : Code
  message : String
  /-- The place of the source text it is about. -/
  location : Option Location := none
  /-- Names and values, in the order in which they were attached. -/
  context : List (String × String) := []
  deriving DecidableEq

/-- A message cut to the limit, with three dots in place of what is cut off. -/
def clipMessage (message : String) : String :=
  if message.length ≤ Limits.current.maxLogMessageLength then message
  else cut Limits.current.maxLogMessageLength message ++ "..."

namespace Event

/-- The event of a message with its context. -/
def raise (level : Level) (code : Code) (message : String) (context : List (String × String)) :
    Event :=
  { level, code, message := clipMessage message, context }

/-- The event placed at a location. -/
def placedAt (event : Event) (location : Location) : Event :=
  { event with location := some location }

/-- The line of text of an event. -/
def toText (event : Event) (moment : Timestamp) : String :=
  let head := moment.timeOfDay ++ " " ++ pad .left 5 event.level.name ++ " " ++
    event.code.text ++ " " ++ event.message
  let placed := match event.location with
    | some place => head ++ " @" ++ toString place.line ++ ":" ++ toString place.column
    | none => head
  event.context.foldl (fun line pair => line ++ " " ++ pair.1 ++ "=" ++ pair.2) placed

/-- The members that the table of codes adds. -/
def entryMembers (event : Event) : List (String × Json.Value) :=
  match event.code.entry? with
  | some entry =>
    [("category", .string entry.category.name), ("severity", .string entry.severity.name)]
  | none => []

/-- The member of the location, if there is one. -/
def locationMembers (event : Event) : List (String × Json.Value) :=
  match event.location with
  | some place => [("location", place.toJson .sorted)]
  | none => []

/-- The member of the context, if anything was attached. -/
def contextMembers (event : Event) : List (String × Json.Value) :=
  if event.context.isEmpty then []
  else [("context", .sorted (event.context.map fun pair => (pair.1, .string pair.2)))]

/-- The object of an event. -/
def toJson (event : Event) (moment : Timestamp) : Json.Value :=
  .sorted ([("timestamp", .string moment.dateTime), ("level", .string event.level.name),
    ("code", .string event.code.text), ("message", .string event.message)] ++
    event.entryMembers ++ event.locationMembers ++ event.contextMembers)

end Event

end CharLexer.Log
