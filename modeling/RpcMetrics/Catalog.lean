/-!
# The vocabulary of RPC metrics

Every call is counted and timed on both of its ends.  A calculation says what is asked of these
counts, a role which end is read, a temporality how the counters accumulate, and a code how a
call ended.  Each has one name, which requests and answers use, and each name is read back as
what it names.
-/
namespace RpcMetrics

/-- What a metric group can compute. -/
inductive Calculation where
  | requestTotal
  /-- The percentage of successful requests. -/
  | successRate
  /-- The percentage of requests that timed out. -/
  | timeoutRate
  /-- The percentage of requests that ended in an exception. -/
  | exceptionRate
  /-- The mean handling time in milliseconds. -/
  | avgDuration
  /-- The median handling time in milliseconds. -/
  | p50Duration
  /-- The handling time in milliseconds that 95 percent stay below. -/
  | p95Duration
  /-- The handling time in milliseconds that 99 percent stay below. -/
  | p99Duration
  /-- The highest series of another calculation. -/
  | topN
  /-- The lowest series of another calculation. -/
  | bottomN
  deriving DecidableEq, Repr

namespace Calculation

def name : Calculation → String
  | requestTotal => "request_total"
  | successRate => "success_rate"
  | timeoutRate => "timeout_rate"
  | exceptionRate => "exception_rate"
  | avgDuration => "avg_duration"
  | p50Duration => "p50_duration"
  | p95Duration => "p95_duration"
  | p99Duration => "p99_duration"
  | topN => "top_n"
  | bottomN => "bottom_n"

def all : List Calculation :=
  [requestTotal, successRate, timeoutRate, exceptionRate, avgDuration, p50Duration, p95Duration,
    p99Duration, topN, bottomN]

/-- Whether the calculation ranks the series of another one. -/
def isRanking : Calculation → Bool
  | topN | bottomN => true
  | _ => false

def ofName? (name : String) : Option Calculation := all.find? fun c => c.name == name

/-- **Names are read back.** -/
theorem ofName?_name (c : Calculation) : ofName? c.name = some c := by cases c <;> decide

end Calculation

/-- How a call ended, as the tag `code_type` tells. -/
inductive Outcome where
  | success
  | timeout
  | exception
  deriving DecidableEq, Repr

namespace Outcome

/-- The value of the tag. -/
def name : Outcome → String
  | success => "success"
  | timeout => "timeout"
  | exception => "exception"

def all : List Outcome := [success, timeout, exception]

def ofName? (name : String) : Option Outcome := all.find? fun c => c.name == name

end Outcome

/-- How the counters of a metric accumulate. -/
inductive Temporality where
  /-- They only grow, and rates need their increase over a window. -/
  | cumulative
  /-- They hold what happened in each reporting interval. -/
  | delta
  deriving DecidableEq, Repr

namespace Temporality

/-- Counters are taken to be cumulative unless something tells otherwise. -/
def default : Temporality := cumulative

def name : Temporality → String
  | cumulative => "cumulative"
  | delta => "delta"

def all : List Temporality := [cumulative, delta]

def ofName? (name : String) : Option Temporality := all.find? fun t => t.name == name

end Temporality

/-! ### Tags and fields -/

namespace Tag

/-- The server that calls. -/
def callerServer : String := "caller_server"

/-- The server that is called. -/
def calleeServer : String := "callee_server"

/-- The library that reported a series. -/
def sdkName : String := "sdk_name"

/-- How a call ended. -/
def codeType : String := "code_type"

/-- The upper bound of a histogram bucket. -/
def bucketBound : String := "le"

end Tag

/-- What is recorded of calls, whichever end records it. -/
inductive Measure where
  | handledTotal
  /-- The sum of the handling times. -/
  | handledSecondsSum
  /-- The number of handling times. -/
  | handledSecondsCount
  /-- The handling times in buckets. -/
  | handledSecondsBucket
  deriving DecidableEq, Repr

namespace Measure

def all : List Measure :=
  [handledTotal, handledSecondsSum, handledSecondsCount, handledSecondsBucket]

/-- The name without the end of the call. -/
def name : Measure → String
  | handledTotal => "handled_total"
  | handledSecondsSum => "handled_seconds_sum"
  | handledSecondsCount => "handled_seconds_count"
  | handledSecondsBucket => "handled_seconds_bucket"

end Measure

/-- The end of a call that metrics describe. -/
inductive Role where
  | caller
  | callee
  deriving DecidableEq, Repr

namespace Role

/-- Callers are described unless something tells otherwise. -/
def default : Role := caller

def name : Role → String
  | caller => "caller"
  | callee => "callee"

def all : List Role := [caller, callee]

def ofName? (name : String) : Option Role := all.find? fun r => r.name == name

/-- The tag that holds the name of the server at this end. -/
def serverTag : Role → String
  | caller => Tag.callerServer
  | callee => Tag.calleeServer

/-- The field of the store that holds a measure taken at this end. -/
def field : Role → Measure → String
  | caller, .handledTotal => "rpc_client_handled_total"
  | caller, .handledSecondsSum => "rpc_client_handled_seconds_sum"
  | caller, .handledSecondsCount => "rpc_client_handled_seconds_count"
  | caller, .handledSecondsBucket => "rpc_client_handled_seconds_bucket"
  | callee, .handledTotal => "rpc_server_handled_total"
  | callee, .handledSecondsSum => "rpc_server_handled_seconds_sum"
  | callee, .handledSecondsCount => "rpc_server_handled_seconds_count"
  | callee, .handledSecondsBucket => "rpc_server_handled_seconds_bucket"

end Role

/-- The families of metrics that can be asked. -/
inductive GroupKind where
  /-- Calls between tRPC servers. -/
  | trpc
  deriving DecidableEq, Repr

namespace GroupKind

def name : GroupKind → String
  | trpc => "trpc"

def all : List GroupKind := [trpc]

def ofName? (name : String) : Option GroupKind := all.find? fun k => k.name == name

end GroupKind

/-- The settings found out about a server. -/
structure ServerProfile where
  temporality : Temporality
  deriving DecidableEq, Repr

/-- What accompanies a calculation. -/
structure Params where
  /-- The start of the window in seconds. -/
  start : Option Int64 := none
  /-- The end of the window in seconds. -/
  stop : Option Int64 := none
  /-- The calculation that a ranking ranks. -/
  ranked : Option Calculation := none
  /-- How many series a ranking keeps. -/
  limit : Option UInt64 := none
  deriving DecidableEq, Repr

end RpcMetrics
