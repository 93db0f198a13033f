import RpcMetrics.Query.Model

/-!
# Queries in JSON

The JSON form of queries, and its reading.  Every field has to be there; only the row limit of a
query set may be null or missing.  A transform is an object with its name under `id` and one
parameter, or an array of the two, and its other members must at least be readable.  Reading does
not check that a query set fits together.
-/
namespace RpcMetrics

namespace Transform

def toJson (transform : Transform) : Json :=
  .object (("id", .string transform.id) ::
    match transform with
    | increase window => [("window_secs", .ofUInt64 window)]
    | quantile scalar => [("scalar", .ofFloat scalar)]
    | top limit => [("limit", .ofUInt64 limit)]
    | bottom limit => [("limit", .ofUInt64 limit)])

/-- Reads the parameter of the transform with a name, by its own name or from its place. -/
def ofParameter? (id : String) (parameter : String → Option Json) : Option Transform :=
  match id with
  | "increase" => do return increase (← Json.toUInt64? (← parameter "window_secs"))
  | "histogram_quantile" => do return quantile (← Json.toFloat? (← parameter "scalar"))
  | "topk" => do return top (← Json.toUInt64? (← parameter "limit"))
  | "bottomk" => do return bottom (← Json.toUInt64? (← parameter "limit"))
  | _ => none

/-- The value of a member whose name occurs once. -/
def single? (members : List (String × Json)) (name : String) : Option Json :=
  match members.filter fun member => member.1 == name with
  | [(_, value)] => some value
  | _ => none

/-- The names of transforms. -/
def ids : List String := ["increase", "histogram_quantile", "topk", "bottomk"]

/-- A name of a transform. -/
def toId? (json : Json) : Option String := json.toText?.filter ids.contains

def ofJson? (json : Json) : Option Transform :=
  match json with
  | .object members => do
    let id ← toId? (← single? members "id")
    let others := members.filter fun member => member.1 != "id"
    if Json.membersReadable others then ofParameter? id (single? others) else none
  | .array [id, parameter] => do
    let id ← toId? id
    ofParameter? id fun _ => some parameter
  | _ => none

end Transform

namespace Query

def fields : List String :=
  ["table_id", "alias", "metric_field", "method", "interval_secs", "group_by", "filter",
    "functions"]

def toJson (query : Query) : Json :=
  .object [("table_id", .string query.table), ("alias", .string query.label),
    ("metric_field", .string query.metric), ("method", .string query.method.name),
    ("interval_secs", .ofUInt64 query.interval), ("group_by", .ofTexts query.groupBy),
    ("filter", query.filter.toJson),
    ("functions", .array (query.transforms.map Transform.toJson))]

def ofJson? (json : Json) : Option Query := do
  let record ← json.toRecord? fields false
  return {
    table := ← record.required "table_id" Json.toText?
    label := ← record.required "alias" Json.toText?
    metric := ← record.required "metric_field" Json.toText?
    method := ← record.required "method" (Json.toNamed? Aggregation.ofName?)
    interval := ← record.required "interval_secs" Json.toUInt64?
    groupBy := ← record.required "group_by" Json.toTexts?
    filter := ← record.required "filter" Filter.ofJson?
    transforms := ← record.required "functions" (Json.toList? Transform.ofJson?) }

end Query

namespace QuerySet

def fields : List String :=
  ["start_time", "end_time", "queries", "expression", "functions", "instant", "limit"]

def toJson (set : QuerySet) : Json :=
  .object [("start_time", .ofInt64 set.start), ("end_time", .ofInt64 set.stop),
    ("queries", .array (set.queries.map Query.toJson)), ("expression", .string set.expression),
    ("functions", .array (set.transforms.map Transform.toJson)), ("instant", .bool set.instant),
    ("limit", .ofOption .ofUInt64 set.limit)]

def ofJson? (json : Json) : Option QuerySet := do
  let record ← json.toRecord? fields false
  return {
    start := ← record.required "start_time" Json.toInt64?
    stop := ← record.required "end_time" Json.toInt64?
    queries := ← record.required "queries" (Json.toList? Query.ofJson?)
    expression := ← record.required "expression" Json.toText?
    transforms := ← record.required "functions" (Json.toList? Transform.ofJson?)
    instant := ← record.required "instant" Json.toBool?
    limit := ← record.nullable "limit" Json.toUInt64? }

end QuerySet
end RpcMetrics
