import RpcMetrics.Data.NameSet
import RpcMetrics.Query.Draft
import RpcMetrics.Run
import RpcMetrics.Settings.Basic

/-!
# Probes

A probe asks which values a tag takes on the series of a metric.  The store answers with one row
for each value; rows without the tag or with an empty value say nothing.  A probe fails if its
query set cannot be built, if the store fails, or if the answer takes longer than allowed.
-/
namespace RpcMetrics

/-- The metrics of one application: its table, and the settings that bound what is asked. -/
structure Scope where
  table : String
  query : QuerySettings
  discovery : DiscoverySettings

namespace Scope

/-- A query of the table. -/
def draft (scope : Scope) : QueryDraft := { table := scope.table }

/-- The window of a request. -/
def window (scope : Scope) (now : Int64) (start stop : Option Int64) : Window :=
  scope.query.rules.resolve now start stop

end Scope

/-- A tag whose values are asked for. -/
structure Probe where
  /-- The metric whose series are looked at. -/
  metric : String
  tag : String
  /-- The series that are looked at. -/
  filter : Filter := .empty
  deriving DecidableEq, Repr

namespace Probe

def fields : List String := ["metric_field", "tag_field", "filter"]

def toJson (probe : Probe) : Json :=
  .object [("metric_field", .string probe.metric), ("tag_field", .string probe.tag),
    ("filter", probe.filter.toJson)]

def ofJson? (json : Json) : Option Probe := do
  let record ← json.toRecord? fields false
  return {
    metric := ← record.required "metric_field" Json.toText?
    tag := ← record.required "tag_field" Json.toText?
    filter := ← record.defaulted "filter" Filter.ofJson? .empty }

/-- What a probe asks the store. -/
def querySet (probe : Probe) (scope : Scope) (window : Window) : Except Failure QuerySet :=
  let query := ((scope.draft.filtered probe.filter).measuring probe.metric .count).groupedBy
    [probe.tag]
  let set : QuerySetDraft := { window }
  (((set.adding query).atInstant).limited scope.query.optionLimit).build

/-- The values of the tag in the rows of an answer. -/
def values (probe : Probe) (rows : List Row) : Data.NameSet :=
  .ofList ((rows.filterMap fun row => row.get? probe.tag).filter fun value => !value.isEmpty)

/-- The values that a reply gives in time, if there is a limit. -/
def outcome (probe : Probe) (limit : Option Duration) (reply : Reply) :
    Except Failure Data.NameSet :=
  match limit with
  | some limit =>
    if limit.toNanos < reply.delay then .error (.timedOut limit)
    else reply.answer.map probe.values
  | none => reply.answer.map probe.values

/-- Runs a probe, within a limit of time if there is one. -/
def runWithin (probe : Probe) (limit : Option Duration) (store : Store) (scope : Scope)
    (window : Window) : Run (Except Failure Data.NameSet) :=
  match probe.querySet scope window with
  | .error failure => pure (.error failure)
  | .ok set => do return probe.outcome limit (← store.ask set)

/-- Runs a probe, however long it takes. -/
def run (probe : Probe) (store : Store) (scope : Scope) (window : Window) :
    Run (Except Failure Data.NameSet) :=
  probe.runWithin none store scope window

end Probe
end RpcMetrics
