import RpcMetrics.Discovery.Fetch
import RpcMetrics.Text.Quoted

/-!
# The metric group of RPC calls

A group turns calculations into query sets over the counters of RPC calls.  All sub-queries of a
calculation share one window, one interval, the dimensions and the filter of the group, and
cumulative counters are read by their increase over the interval.  They differ in what they
measure, in one condition on the outcome of calls for rates, and in the bucket dimension for
quantiles.  A ranking keeps the highest or lowest series of another calculation.
-/
namespace RpcMetrics

/-- What a request fixes for all of its calculations. -/
structure GroupOptions where
  /-- The dimensions of every sub-query. -/
  groupBy : List String := []
  /-- The series that take part in every sub-query. -/
  filter : Filter := .empty
  /-- The end of the call that is read. -/
  role : Role := .default
  temporality : Temporality := .default

/-- A group over the metrics of an application. -/
structure Group where
  scope : Scope
  options : GroupOptions

namespace Group

/-- The kind of the group. -/
def kind (_ : Group) : GroupKind := .trpc

/-- The field of the store that holds a measure. -/
def field (group : Group) (measure : Measure) : String := group.options.role.field measure

/-! ### Calculations as query sets -/

/-- What every sub-query over a window begins with. -/
def draft (group : Group) (window : Window) : QueryDraft :=
  let interval := group.scope.query.rules.interval window
  let draft := ((group.scope.draft.every interval).groupedBy group.options.groupBy).filtered
    group.options.filter
  match group.options.temporality with
  | .cumulative => draft.transformed (.increase interval)
  -- deltas are growth already
  | .delta => draft

/-- The number of requests. -/
def requestTotal (group : Group) (window : Window) : QuerySetDraft :=
  let requests := ((group.draft window).named "a").measuring (group.field .handledTotal) .sum
  let set : QuerySetDraft := { window }
  (set.adding requests).combined "a"

/-- The mean handling time in milliseconds. -/
def avgDuration (group : Group) (window : Window) : QuerySetDraft :=
  let times := ((group.draft window).named "a").measuring (group.field .handledSecondsSum) .sum
  let count := ((group.draft window).named "b").measuring (group.field .handledSecondsCount) .sum
  let set : QuerySetDraft := { window }
  ((set.adding times).adding count).combined "(a / b) * 1000"

/-- The handling time in milliseconds that a share of the calls stays below. -/
def quantileDuration (group : Group) (scalar : Float) (window : Window) : QuerySetDraft :=
  let buckets := ((((group.draft window).named "a").groupedBy [Tag.bucketBound]).measuring
    (group.field .handledSecondsBucket) .sum).transformed (.quantile scalar)
  let set : QuerySetDraft := { window }
  (set.adding buckets).combined "a * 1000"

/-- The condition that a rate counts, and the expression that makes a percentage of it.  Calls
that fail may have no series, so their share is what the others leave. -/
def rate : Outcome → Condition × String
  | .success => (.equal Tag.codeType Outcome.success.name, "(a / b) * 100")
  | .timeout => (.unequal Tag.codeType Outcome.timeout.name, "(1 - a / b) * 100")
  | .exception => (.unequal Tag.codeType Outcome.exception.name, "(1 - a / b) * 100")

/-- The percentage of calls with an outcome. -/
def outcomeRate (group : Group) (outcome : Outcome) (window : Window) : QuerySetDraft :=
  let counted := (((group.draft window).named "a").filtered
    (Filter.empty.and (rate outcome).1)).measuring (group.field .handledTotal) .sum
  let total := ((group.draft window).named "b").measuring (group.field .handledTotal) .sum
  let set : QuerySetDraft := { window }
  ((set.adding counted).adding total).combined (rate outcome).2

/-- The draft of a calculation, unless it ranks another one. -/
def direct? (group : Group) (window : Window) (calculation : Calculation) :
    Option QuerySetDraft :=
  QuerySetDraft.atInstant <$>
    match calculation with
    | .requestTotal => some (group.requestTotal window)
    | .successRate => some (group.outcomeRate .success window)
    | .timeoutRate => some (group.outcomeRate .timeout window)
    | .exceptionRate => some (group.outcomeRate .exception window)
    | .avgDuration => some (group.avgDuration window)
    | .p50Duration => some (group.quantileDuration 0.50 window)
    | .p95Duration => some (group.quantileDuration 0.95 window)
    | .p99Duration => some (group.quantileDuration 0.99 window)
    | .topN | .bottomN => none

/-- Which series a calculation keeps of so many, if it is a ranking. -/
def kept (limit : UInt64) : Calculation → Transform
  | .bottomN => .bottom limit
  | _ => .top limit

/-- The draft of a ranking: another calculation, of which as many series are kept as the
parameters say. -/
def ranking (group : Group) (window : Window) (calculation : Calculation) (params : Params) :
    Except Failure QuerySetDraft := do
  let some ranked := params.ranked | throw (.invalidArgument .nothingRanked)
  let some draft := group.direct? window ranked
    | throw (.invalidArgument (.rankedRanking ranked))
  let some limit := params.limit | throw (.invalidArgument .noLimit)
  if limit = 0 then throw (.invalidArgument .zeroLimit)
  return draft.transformed (kept limit calculation)

/-- The draft of any calculation. -/
def calculationDraft (group : Group) (window : Window) (calculation : Calculation)
    (params : Params) : Except Failure QuerySetDraft :=
  match group.direct? window calculation with
  | some draft => .ok draft
  | none => group.ranking window calculation params

/-- The query set of a calculation at a clock value. -/
def querySet (group : Group) (now : Int64) (calculation : Calculation) (params : Params) :
    Except Failure QuerySet := do
  let window := group.scope.window now params.start params.stop
  (← group.calculationDraft window calculation params).build

/-! ### Running calculations -/

/-- The span of a calculation. -/
def span (group : Group) (calculation : Calculation) : Log.Span :=
  { level := .info, source := .group, name := "metric_group",
    fields := [("request_id", .identifier), ("group", .text group.kind.name),
      ("calculation", .text calculation.name), ("role", .text group.options.role.name),
      ("temporality", .text group.options.temporality.name)] }

/-- A query set has been built. -/
def builtEvent (set : QuerySet) : Log.Event :=
  { level := .debug, source := .group, message := "Built query set",
    fields := [("expression", .text set.expression), ("queries", .number set.queries.length),
      ("start_time", .number set.start.toInt), ("end_time", .number set.stop.toInt)] }

/-- A calculation has been answered. -/
def finishedEvent (rows : List Row) : Log.Event :=
  { level := .debug, source := .group, message := "Calculation finished",
    fields := [("rows", .number rows.length)] }

/-- Runs a calculation: one query set, counted and handed to the store, if it can be built. -/
def handle (group : Group) (store : Store) (now : Int64) (calculation : Calculation)
    (params : Params) : Run (Except Failure (List Row)) :=
  Run.inSpan (group.span calculation) do
    match group.querySet now calculation params with
    | .error failure => return .error failure
    | .ok set => do
      Run.log (builtEvent set)
      Run.count (.query calculation)
      match (← store.ask set).answer with
      | .error failure => return .error failure
      | .ok rows => do
        Run.log (finishedEvent rows)
        return .ok rows

/-- Runs the calculation with a name, if there is one. -/
def handleNamed (group : Group) (store : Store) (now : Int64) (calculation : String)
    (params : Params) : Run (Except Failure (List Row)) :=
  match Calculation.parse calculation with
  | .error failure => pure (.error failure)
  | .ok calculation => group.handle store now calculation params

/-! ### Servers -/

/-- The probe for the names of servers at one end of calls. -/
def serverProbe (role : Role) : Probe :=
  { metric := role.field .handledTotal, tag := role.serverTag }

/-- The names of all servers seen at either end of a call. -/
def serverList (group : Group) (store : Store) (now : Int64) (start stop : Option Int64) :
    Run Data.NameSet :=
  Discovery.fetchUnion store group.scope (group.scope.window now start stop)
    [serverProbe .caller, serverProbe .callee]

/-- The probe for the libraries that a server reports with at one end of calls. -/
def sdkProbe (server : String) (role : Role) : Probe :=
  { metric := role.field .handledTotal, tag := Tag.sdkName,
    filter := Filter.empty.and (.equal role.serverTag server) }

/-- The temporality that the libraries of a server tell.  Only those that report for each interval
give their name. -/
def temporalityOf (sdkNames : Data.NameSet) : Temporality :=
  if sdkNames.isEmpty then .cumulative else .delta

/-- A temporality has been detected. -/
def detectedEvent (server : String) (sdkNames : Data.NameSet) : Log.Event :=
  { level := .debug, source := .group, message := "Detected server temporality",
    fields := [("server", .text server), ("temporality", .text (temporalityOf sdkNames).name),
      ("sdk_names", .text (Text.quotedSet sdkNames.toList))] }

/-- The settings of a server, found out by two probes. -/
def serverProfile (group : Group) (store : Store) (now : Int64) (server : String)
    (start stop : Option Int64) : Run ServerProfile := do
  let sdkNames ← Discovery.fetchUnion store group.scope (group.scope.window now start stop)
    [sdkProbe server .caller, sdkProbe server .callee]
  Run.log (detectedEvent server sdkNames)
  return ⟨temporalityOf sdkNames⟩

end Group
end RpcMetrics
