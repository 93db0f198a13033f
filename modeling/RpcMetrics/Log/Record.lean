import RpcMetrics.Decimal.Integer

/-!
# Log records

What a run reports beside its result is a row of records.  A record is an event with a message or
the opening of a span with a name.  Either has a level, the part of the program that reports it,
and named values.  An event also tells in which spans it happened.
-/
namespace RpcMetrics.Log

/-- How urgent a record is. -/
inductive Level where
  | trace
  | debug
  | info
  | warn
  | error
  deriving DecidableEq, Repr

namespace Level

/-- The name of a level. -/
def name : Level → String
  | trace => "TRACE"
  | debug => "DEBUG"
  | info => "INFO"
  | warn => "WARN"
  | error => "ERROR"

/-- The place of a level, from the most urgent on. -/
def rank : Level → Nat
  | error => 1
  | warn => 2
  | info => 3
  | debug => 4
  | trace => 5

end Level

/-- The parts of the program that report. -/
inductive Source where
  | command
  | group
  | metrics
  | discovery
  | tables
  | exchange
  deriving DecidableEq, Repr

/-- The name under which a part reports, which log filters refer to. -/
def Source.target : Source → String
  | .command => "apm_metrics"
  | .group => "apm_metrics::group::trpc"
  | .metrics => "apm_metrics::metric"
  | .discovery => "apm_metrics::metric::discovery"
  | .tables => "apm_metrics::query::table"
  | .exchange => "apm_metrics::query::http"

/-- A named value of a record. -/
inductive Value where
  | text (content : String)
  | number (n : Int)
  /-- An identifier that is drawn anew each time. -/
  | identifier
  deriving DecidableEq, Repr

/-- The value as a text, if it is the same each time. -/
def Value.text? : Value → Option String
  | text content => some content
  | number n => some (Decimal.writeInt n)
  | identifier => none

/-- Values by their names. -/
abbrev Fields := List (String × Value)

/-- The values as texts, where they are the same each time. -/
def Fields.texts (fields : Fields) : List (String × String) :=
  fields.filterMap fun field => field.2.text?.map fun text => (field.1, text)

/-- A span of time in which something is done. -/
structure Span where
  level : Level
  source : Source
  name : String
  fields : Fields := []
  deriving DecidableEq, Repr

/-- Something that happens. -/
structure Event where
  level : Level
  source : Source
  message : String
  fields : Fields := []
  deriving DecidableEq, Repr

/-- A report. -/
inductive Record where
  | opened (span : Span)
  /-- An event happens in spans, of which the outermost comes first. -/
  | reported (event : Event) (spans : List Span)
  deriving DecidableEq, Repr

namespace Record

/-- The record in one more span around it. -/
def within (span : Span) : Record → Record
  | opened inner => opened inner
  | reported event spans => reported event (span :: spans)

/-- The event that is reported, if it is one. -/
def event? : Record → Option Event
  | opened _ => none
  | reported event _ => some event

end Record
end RpcMetrics.Log
