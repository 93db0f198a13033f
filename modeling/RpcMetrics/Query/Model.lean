import RpcMetrics.Filter

/-!
# Queries

A query aggregates one metric of one table, by groups and under a filter, and passes the result
through transforms.  A query set combines such sub-queries, each under an alias, by an expression
over their aliases, within one window of time.  These are plain data as the store receives them;
that a query set fits together is what its draft sees to.
-/
namespace RpcMetrics

/-- How the store aggregates a metric. -/
inductive Aggregation where
  | sum
  | count
  | avg
  | min
  | max
  deriving DecidableEq, Repr

namespace Aggregation

/-- The name the store knows. -/
def name : Aggregation → String
  | sum => "SUM"
  | count => "COUNT"
  | avg => "AVG"
  | min => "MIN"
  | max => "MAX"

def all : List Aggregation := [sum, count, avg, min, max]

def ofName? (name : String) : Option Aggregation := all.find? fun a => a.name == name

/-- **Names are read back.** -/
theorem ofName?_name (a : Aggregation) : ofName? a.name = some a := by cases a <;> decide

end Aggregation

/-- What is done to the series of a sub-query, or of a whole query set. -/
inductive Transform where
  /-- The growth of counters over a window in seconds. -/
  | increase (window : UInt64)
  /-- A quantile, estimated from histogram buckets. -/
  | quantile (scalar : Float)
  /-- The largest series. -/
  | top (limit : UInt64)
  /-- The smallest series. -/
  | bottom (limit : UInt64)
  deriving DecidableEq, Repr

namespace Transform

/-- The name the store knows. -/
def id : Transform → String
  | increase _ => "increase"
  | quantile _ => "histogram_quantile"
  | top _ => "topk"
  | bottom _ => "bottomk"

/-- Numbers in descriptions: the shortest digits, of two equally near ones the one farther from
zero, always around a point and without one if the number is whole. -/
def layout : Decimal.Layout := ⟨.away, none, false⟩

/-- A short description. -/
def describe : Transform → String
  | increase window => "increase(window=" ++ Decimal.writeNat window.toNat ++ "s)"
  | quantile scalar => "histogram_quantile(scalar=" ++ layout.write scalar ++ ")"
  | top limit => "topk(" ++ Decimal.writeNat limit.toNat ++ ")"
  | bottom limit => "bottomk(" ++ Decimal.writeNat limit.toNat ++ ")"

end Transform

/-- A sub-query. -/
structure Query where
  /-- The table the metric lives in. -/
  table : String
  label : String
  /-- The field of the store that is aggregated. -/
  metric : String
  method : Aggregation
  /-- The step of windows in seconds. -/
  interval : UInt64
  /-- The dimensions kept in the result. -/
  groupBy : List String
  /-- The series that take part. -/
  filter : Filter
  /-- What is done to the result, in order. -/
  transforms : List Transform
  deriving DecidableEq, Repr

namespace Query

/-- Whether a transform with the name is applied. -/
def hasTransform (query : Query) (id : String) : Bool := query.transforms.any fun t => t.id == id

end Query

/-- Sub-queries within a window of time, combined by an expression. -/
structure QuerySet where
  /-- The start of the window in milliseconds. -/
  start : Int64
  /-- The end of the window in milliseconds. -/
  stop : Int64
  queries : List Query
  expression : String
  /-- What is done to the result, in order. -/
  transforms : List Transform
  /-- Whether there is one result for the window rather than a series. -/
  instant : Bool
  /-- How many rows are wanted at most. -/
  limit : Option UInt64
  deriving DecidableEq, Repr

namespace QuerySet

/-- The first sub-query with an alias. -/
def query? (set : QuerySet) (label : String) : Option Query :=
  set.queries.find? fun query => query.label == label

end QuerySet
end RpcMetrics
