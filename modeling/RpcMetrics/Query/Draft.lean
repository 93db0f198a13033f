import RpcMetrics.Query.Model
import RpcMetrics.Window

/-!
# Drafts of queries

Queries are put together step by step and checked once, when they are finished.  A draft of a
query takes an alias, a metric, an interval, dimensions, conditions and transforms in any order;
the last alias, metric and interval count, and the others add up, a dimension only once.  A draft
of a query set takes drafts of queries, and is finished only if they fit together: the window is
in order, the aliases are distinct, and the expression refers to nothing else.
-/
namespace RpcMetrics

/-- A query in the making. -/
structure QueryDraft where
  /-- The table the metric lives in. -/
  table : String
  label : String := "a"
  /-- The metric and how it is aggregated, once known. -/
  metric : Option (String × Aggregation) := none
  /-- The step of windows in seconds. -/
  interval : UInt64 := 60
  /-- The dimensions kept in the result. -/
  groupBy : List String := []
  /-- The series that take part. -/
  filter : Filter := .empty
  /-- What is done to the result. -/
  transforms : List Transform := []
  deriving DecidableEq, Repr

namespace QueryDraft

/-- One more dimension, unless it is there already. -/
def addKey (keys : List String) (key : String) : List String :=
  if keys.contains key then keys else keys ++ [key]

/-- A dimension more keeps the first of each. -/
theorem addKey_eraseDups (keys : List String) (key : String) :
    addKey keys.eraseDups key = (keys ++ [key]).eraseDups := by
  rw [addKey, List.eraseDups_append, List.removeAll]
  by_cases hkey : key ∈ keys
  · simp [hkey, List.mem_eraseDups]
  · simp [hkey, List.mem_eraseDups, List.eraseDups_cons]

/-- **Adding dimensions one by one keeps the first of each.** -/
theorem foldl_addKey (kept keys : List String) :
    keys.foldl addKey kept.eraseDups = (kept ++ keys).eraseDups := by
  induction keys generalizing kept with
  | nil => rw [List.foldl_nil, List.append_nil]
  | cons key keys ih => rw [List.foldl_cons, addKey_eraseDups, ih, List.append_assoc]; rfl

/-- What can be done to a draft. -/
inductive Step where
  | named (label : String)
  | measuring (metric : String) (method : Aggregation)
  | every (interval : UInt64)
  | groupedBy (keys : List String)
  | filtered (filter : Filter)
  | transformed (transform : Transform)
  deriving DecidableEq, Repr

def named (draft : QueryDraft) (label : String) : QueryDraft := { draft with label }

def measuring (draft : QueryDraft) (metric : String) (method : Aggregation) : QueryDraft :=
  { draft with metric := some (metric, method) }

def every (draft : QueryDraft) (interval : UInt64) : QueryDraft := { draft with interval }

def groupedBy (draft : QueryDraft) (keys : List String) : QueryDraft :=
  { draft with groupBy := keys.foldl addKey draft.groupBy }

def filtered (draft : QueryDraft) (filter : Filter) : QueryDraft :=
  { draft with filter := draft.filter.merge filter }

/-- The draft with one more transform. -/
def transformed (draft : QueryDraft) (transform : Transform) : QueryDraft :=
  { draft with transforms := draft.transforms ++ [transform] }

def apply (draft : QueryDraft) : Step → QueryDraft
  | .named label => draft.named label
  | .measuring metric method => draft.measuring metric method
  | .every interval => draft.every interval
  | .groupedBy keys => draft.groupedBy keys
  | .filtered filter => draft.filtered filter
  | .transformed transform => draft.transformed transform

/-- The draft after the steps of a list. -/
def applyAll (draft : QueryDraft) (steps : List Step) : QueryDraft := steps.foldl apply draft

/-- Finishes the draft, if it measures something and has an alias. -/
def build (draft : QueryDraft) : Except Failure Query :=
  match draft.metric with
  | none => .error (.validation (.noMetric draft.label))
  | some (metric, method) =>
    if draft.label.isEmpty then .error (.validation .emptyAlias)
    else .ok {
      table := draft.table, label := draft.label, metric, method, interval := draft.interval,
      groupBy := draft.groupBy, filter := draft.filter, transforms := draft.transforms }

end QueryDraft

/-- A query set in the making. -/
structure QuerySetDraft where
  window : Window
  queries : List QueryDraft := []
  /-- The expression over their aliases, once known. -/
  expression : Option String := none
  /-- What is done to the result. -/
  transforms : List Transform := []
  /-- Whether there is one result for the window. -/
  instant : Bool := false
  /-- How many rows are wanted at most. -/
  limit : Option UInt64 := none
  deriving DecidableEq, Repr

namespace QuerySetDraft

/-- What can be done to a draft. -/
inductive Step where
  | adding (query : QueryDraft)
  | combined (expression : String)
  | transformed (transform : Transform)
  /-- Asks for one result for the window. -/
  | atInstant
  | limited (limit : UInt64)
  deriving DecidableEq, Repr

/-- The draft with one more sub-query. -/
def adding (draft : QuerySetDraft) (query : QueryDraft) : QuerySetDraft :=
  { draft with queries := draft.queries ++ [query] }

def combined (draft : QuerySetDraft) (expression : String) : QuerySetDraft :=
  { draft with expression := some expression }

/-- The draft with one more transform. -/
def transformed (draft : QuerySetDraft) (transform : Transform) : QuerySetDraft :=
  { draft with transforms := draft.transforms ++ [transform] }

/-- The draft with one result for the window. -/
def atInstant (draft : QuerySetDraft) : QuerySetDraft := { draft with instant := true }

/-- The draft with another row limit. -/
def limited (draft : QuerySetDraft) (limit : UInt64) : QuerySetDraft :=
  { draft with limit := some limit }

def apply (draft : QuerySetDraft) : Step → QuerySetDraft
  | .adding query => draft.adding query
  | .combined expression => draft.combined expression
  | .transformed transform => draft.transformed transform
  | .atInstant => draft.atInstant
  | .limited limit => draft.limited limit

/-- The draft after the steps of a list. -/
def applyAll (draft : QuerySetDraft) (steps : List Step) : QuerySetDraft := steps.foldl apply draft

/-- Whether the store can be asked for a window. -/
def checkWindow (window : Window) : Except ValidationFault Unit :=
  if window.start < 0 || window.stop < 0 then .error (.negativeWindow window.start window.stop)
  else if window.stop < window.start then .error (.invertedWindow window.start window.stop)
  else .ok ()

/-- The first name that has occurred before, in a list or in `seen`. -/
def firstRepeated (seen : List String) : List String → Option String
  | [] => none
  | name :: names => if seen.contains name then some name else firstRepeated (name :: seen) names

/-- Whether the aliases are distinct. -/
def checkAliases (labels : List String) : Except ValidationFault Unit :=
  match firstRepeated [] labels with
  | some label => .error (.duplicateAlias label)
  | none => .ok ()

/-- The expression, which is the alias if there is one sub-query only. -/
def chooseExpression (expression : Option String) (labels : List String) :
    Except ValidationFault String :=
  match expression, labels with
  | some expression, _ => .ok expression
  | none, [label] => .ok label
  | none, _ => .error .noExpression

/-- Whether the expression is one, and refers to nothing but the aliases. -/
def checkExpression (expression : String) (labels : List String) : Except ValidationFault Unit :=
  match Expression.aliases expression with
  | .error fault => .error (.malformed expression fault)
  | .ok names =>
    match names.toList.find? fun name => !labels.contains name with
    | some name => .error (.unknownAlias expression name)
    | none => .ok ()

/-- A check of parts that fails as a whole. -/
def require {α : Type} (check : Except ValidationFault α) : Except Failure α :=
  check.mapError .validation

/-- Finishes the draft, if everything fits together. -/
def build (draft : QuerySetDraft) : Except Failure QuerySet := do
  require (checkWindow draft.window)
  if draft.queries.isEmpty then throw (.validation .noQueries)
  let queries ← draft.queries.mapM QueryDraft.build
  let labels := queries.map Query.label
  require (checkAliases labels)
  let expression ← require (chooseExpression draft.expression labels)
  require (checkExpression expression labels)
  return {
    start := draft.window.start, stop := draft.window.stop, queries, expression,
    transforms := draft.transforms, instant := draft.instant, limit := draft.limit }

end QuerySetDraft
end RpcMetrics
