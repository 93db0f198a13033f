import RpcMetrics.Catalog
import RpcMetrics.Duration.Basic
import RpcMetrics.Expression.Scan

/-!
# Failures

What can go wrong is told apart by cause.  A caller may have asked for something that is not
supported, a query may not fit together, or the store may have refused, failed or taken too long.
`Failure.message` words each cause.
-/
namespace RpcMetrics

/-- What was asked for that is not supported. -/
inductive ArgumentFault where
  /-- No calculation has this name. -/
  | unknownCalculation (name : String)
  /-- No temporality has this name. -/
  | unknownTemporality (name : String)
  /-- No role has this name. -/
  | unknownRole (name : String)
  /-- No metric group has this name. -/
  | unknownGroup (name : String)
  /-- The filter key ends in no operator. -/
  | unknownOperator (key : String)
  /-- The filter key names no field. -/
  | missingField (key : String)
  /-- The filter compares with something that is no scalar. -/
  | compoundValue (key : String)
  /-- A ranking does not say what it ranks. -/
  | nothingRanked
  /-- A ranking ranks a ranking. -/
  | rankedRanking (calculation : Calculation)
  /-- A ranking does not say how many series it keeps. -/
  | noLimit
  /-- A ranking keeps no series. -/
  | zeroLimit
  /-- The application has no name. -/
  | emptyApp
  /-- Any other reason, in words. -/
  | other (text : String)
  deriving DecidableEq, Repr

def ArgumentFault.message : ArgumentFault → String
  | unknownCalculation name => "Unsupported calculation type -> " ++ name
  | unknownTemporality name => "unknown temporality: " ++ name
  | unknownRole name => "unknown role: " ++ name
  | unknownGroup name => "unknown metric group: " ++ name
  | unknownOperator key => "unsupported filter operator in " ++ key
  | missingField key => "missing filter field in " ++ key
  | compoundValue key => "filter " ++ key ++ " only accepts scalar values"
  | nothingRanked => "qs_type is required for top_n/bottom_n"
  | rankedRanking calculation => calculation.name ++ " cannot be ranked by top_n/bottom_n"
  | noLimit => "limit is required for top_n/bottom_n"
  | zeroLimit => "limit must be positive"
  | emptyApp => "app_name must not be empty"
  | other text => text

/-- Why sub-queries do not make a query set. -/
inductive ValidationFault where
  /-- The sub-query with this alias measures nothing. -/
  | noMetric (label : String)
  /-- A sub-query has no alias. -/
  | emptyAlias
  /-- The window reaches before the epoch. -/
  | negativeWindow (start stop : Int64)
  /-- The window ends before it starts. -/
  | invertedWindow (start stop : Int64)
  /-- There are no sub-queries. -/
  | noQueries
  /-- Two sub-queries have this alias. -/
  | duplicateAlias (label : String)
  /-- Several sub-queries are not combined. -/
  | noExpression
  /-- The expression is none. -/
  | malformed (expression : String) (fault : Expression.Fault)
  /-- The expression refers to no sub-query. -/
  | unknownAlias (expression label : String)
  /-- Any other reason, in words. -/
  | other (text : String)
  deriving DecidableEq, Repr

def ValidationFault.message : ValidationFault → String
  | noMetric label => "query `" ++ label ++ "` has no metric"
  | emptyAlias => "query alias is empty"
  | negativeWindow start stop =>
    "time range must not be negative: " ++ Decimal.writeInt start.toInt ++ ".."
      ++ Decimal.writeInt stop.toInt
  | invertedWindow start stop =>
    "time range start " ++ Decimal.writeInt start.toInt ++ " is after end "
      ++ Decimal.writeInt stop.toInt
  | noQueries => "query set has no queries"
  | duplicateAlias label => "duplicate query alias `" ++ label ++ "`"
  | noExpression => "query set with several queries needs an expression"
  | malformed expression fault => fault.message expression
  | unknownAlias expression label =>
    "expression `" ++ expression ++ "` references unknown alias `" ++ label ++ "`"
  | other text => text

/-- What can go wrong. -/
inductive Failure where
  /-- The caller asked for something unsupported. -/
  | invalidArgument (fault : ArgumentFault)
  /-- The query set does not fit together. -/
  | validation (fault : ValidationFault)
  /-- The store rejected or failed a query. -/
  | store (text : String)
  /-- The store did not answer in time. -/
  | timedOut (limit : Duration)
  /-- The settings could not be loaded. -/
  | configuration (text : String)
  /-- The exchange with the store failed. -/
  | transport (text : String)
  /-- A text is not what it should describe. -/
  | serialization (text : String)
  deriving DecidableEq, Repr

namespace Failure

def message : Failure → String
  | invalidArgument fault => "Invalid argument: " ++ fault.message
  | validation fault => "Validation error: " ++ fault.message
  | store text => "Store error: " ++ text
  | timedOut limit => "Timed out after " ++ limit.unitText
  | configuration text => "Configuration error: " ++ text
  | transport text => "HTTP error: " ++ text
  | serialization text => "Serialization error: " ++ text

/-- Whether the caller's input is to blame. -/
def isInvalidArgument : Failure → Bool
  | invalidArgument _ => true
  | _ => false

end Failure

/-! ### Reading names -/

def Calculation.parse (name : String) : Except Failure Calculation :=
  match ofName? name with
  | some calculation => .ok calculation
  | none => .error (.invalidArgument (.unknownCalculation name))

def Temporality.parse (name : String) : Except Failure Temporality :=
  match ofName? name with
  | some temporality => .ok temporality
  | none => .error (.invalidArgument (.unknownTemporality name))

def Role.parse (name : String) : Except Failure Role :=
  match ofName? name with
  | some role => .ok role
  | none => .error (.invalidArgument (.unknownRole name))

/-- The metric group with a name. -/
def GroupKind.parse (name : String) : Except Failure GroupKind :=
  match ofName? name with
  | some kind => .ok kind
  | none => .error (.invalidArgument (.unknownGroup name))

end RpcMetrics
