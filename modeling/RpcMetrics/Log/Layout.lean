import RpcMetrics.Json.Basic
import RpcMetrics.Log.Record

/-!
# Layout of log lines

An event is written on a line of its own: its level, the part of the program that reports it, its
message and its named values, either as text or as a JSON object.
-/
namespace RpcMetrics.Log.Event

/-- An event as text. -/
def line (event : Event) : String :=
  " ".intercalate (event.level.name :: (event.source.target ++ ":") :: event.message
    :: event.fields.texts.map fun field => field.1 ++ "=" ++ field.2)

/-- An event as a JSON object. -/
def toJson (event : Event) : Json :=
  .object [("level", .string event.level.name), ("target", .string event.source.target),
    ("fields", .object (("message", .string event.message)
      :: event.fields.texts.map fun field => (field.1, .string field.2)))]

end RpcMetrics.Log.Event
