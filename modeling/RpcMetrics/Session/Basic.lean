import RpcMetrics.Group
import RpcMetrics.Session.Script

/-!
# Sessions

A session is a group, a store and a clock, and a row of steps.  A step sets the clock or the
store, looks at the group, or asks something of it; only the first two change what later steps
see.  `Session.run` gives each step's answer with what was done for it.
-/
namespace RpcMetrics

/-- What a session's steps see. -/
structure Session where
  group : Group
  /-- The store behind it. -/
  store : Store
  /-- The clock in seconds. -/
  now : Int64

namespace Session

/-- A step of a session. -/
inductive Step where
  | setNow (now : Int64)
  | setStore (store : Store)
  | describe
  | window (start stop : Option Int64)
  /-- Builds the query set of a calculation. -/
  | querySet (calculation : Calculation) (params : Params)
  | handle (calculation : Calculation) (params : Params)
  /-- Runs the calculation with a name. -/
  | handleNamed (calculation : String) (params : Params)
  | serverList (start stop : Option Int64)
  /-- Finds out the settings of a server. -/
  | serverProfile (server : String) (start stop : Option Int64)
  /-- Runs one probe over a window. -/
  | probe (probe : Probe) (window : Window)
  | fetch (probes : List Probe) (start stop : Option Int64)
  /-- Runs probes and gives all values found. -/
  | fetchUnion (probes : List Probe) (start stop : Option Int64)

/-- What a step answers. -/
inductive Answer where
  /-- Nothing: something has been set. -/
  | done
  | description (kind : GroupKind) (role : Role) (temporality : Temporality) (table : String)
  | window (window : Window) (interval : UInt64)
  | querySet (set : QuerySet)
  | rows (rows : List Row)
  | profile (profile : ServerProfile)
  | names (names : Data.NameSet)
  /-- Texts that have been found, probe by probe. -/
  | namesByProbe (names : List Data.NameSet)
  | failed (failure : Failure)

/-- The answer for a result that may be a failure. -/
def Answer.ofResult {α : Type} (answer : α → Answer) : Except Failure α → Answer
  | .ok value => answer value
  | .error failure => failed failure

def next (session : Session) : Step → Session
  | .setNow now => { session with now }
  | .setStore store => { session with store }
  | _ => session

def answer (session : Session) : Step → Run Answer
  | .setNow _ | .setStore _ => return .done
  | .describe =>
    return .description session.group.kind session.group.options.role
      session.group.options.temporality session.group.scope.table
  | .window start stop =>
    let window := session.group.scope.window session.now start stop
    return .window window (session.group.scope.query.rules.interval window)
  | .querySet calculation params =>
    return .ofResult .querySet (session.group.querySet session.now calculation params)
  | .handle calculation params =>
    return .ofResult .rows
      (← session.group.handle session.store session.now calculation params)
  | .handleNamed calculation params =>
    return .ofResult .rows
      (← session.group.handleNamed session.store session.now calculation params)
  | .serverList start stop =>
    return .names (← session.group.serverList session.store session.now start stop)
  | .serverProfile server start stop =>
    return .profile
      (← session.group.serverProfile session.store session.now server start stop)
  | .probe probe window =>
    return .ofResult .names (← probe.run session.store session.group.scope window)
  | .fetch probes start stop =>
    let window := session.group.scope.window session.now start stop
    return .namesByProbe (← Discovery.fetch session.store session.group.scope window probes)
  | .fetchUnion probes start stop =>
    let window := session.group.scope.window session.now start stop
    return .names (← Discovery.fetchUnion session.store session.group.scope window probes)

/-- The answers to the steps of a list. -/
def run (session : Session) : List Step → List (Run Answer)
  | [] => []
  | step :: steps => session.answer step :: (session.next step).run steps

end Session
end RpcMetrics
