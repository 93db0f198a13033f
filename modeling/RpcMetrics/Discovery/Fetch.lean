import RpcMetrics.Discovery.Probe

/-!
# Discovery of tag values

Many probes are run over one window, so many at a time as the settings allow.  They are started
in order and may end in any order; `settle` puts the outcomes back in the order of the probes.  A
probe that fails is logged and counted and finds nothing, and no other probe is the worse for it.
-/
namespace RpcMetrics.Discovery

/-- The outcome of the probe with an index. -/
abbrev Outcome := Nat × Except Failure Data.NameSet

/-- A probe found values. -/
def foundEvent (probe : Probe) (values : Data.NameSet) : Log.Event :=
  { level := .debug, source := .discovery, message := "Collected option values",
    fields := [("metric_field", .text probe.metric), ("tag_field", .text probe.tag),
      ("count", .number values.size)] }

/-- A probe failed. -/
def failedEvent (probe : Probe) (failure : Failure) : Log.Event :=
  { level := .warn, source := .discovery, message := "Failed to get option values",
    fields := [("metric_field", .text probe.metric), ("tag_field", .text probe.tag),
      ("error", .text failure.message)] }

/-- The span of a discovery. -/
def span (probes : List Probe) : Log.Span :=
  { level := .info, source := .discovery, name := "option_discovery",
    fields := [("request_id", .identifier), ("probes", .number probes.length)] }

/-- Puts one outcome in its place among the values found so far. -/
def settleOne (probes : List Probe) (found : List Data.NameSet) (outcome : Outcome) :
    Run (List Data.NameSet) :=
  match probes[outcome.1]?, outcome.2 with
  | none, _ => pure found
  | some probe, .ok values => do
    Run.log (foundEvent probe values)
    return found.set outcome.1 values
  | some probe, .error failure => do
    Run.log (failedEvent probe failure)
    Run.count (.failedProbe probe.metric)
    return found

/-- Puts outcomes, in the order in which the probes ended, in the order of the probes. -/
def settle (probes : List Probe) (outcomes : List Outcome) : Run (List Data.NameSet) :=
  outcomes.foldlM (settleOne probes) (List.replicate probes.length .empty)

/-- Runs probes over a window in order, each under its index. -/
def runAll (store : Store) (scope : Scope) (window : Window) (probes : List Probe) :
    Run (List Outcome) :=
  probes.zipIdx.mapM fun (probe, index) => do
    return (index, ← probe.runWithin scope.discovery.probeTimeout store scope window)

/-- The outcomes in the order in which the probes ended. -/
def inOrder (ended : List Nat) (outcomes : List Outcome) : List Outcome :=
  ended.filterMap fun index => outcomes[index]?

/-- The values found by each probe, if the probes end in the given order. -/
def fetchEnding (ended : List Nat) (store : Store) (scope : Scope) (window : Window)
    (probes : List Probe) : Run (List Data.NameSet) :=
  Run.inSpan (span probes) do
    let outcomes ← runAll store scope window probes
    settle probes (inOrder ended outcomes)

/-- The values found by each probe. -/
def fetch (store : Store) (scope : Scope) (window : Window) (probes : List Probe) :
    Run (List Data.NameSet) :=
  fetchEnding (List.range probes.length) store scope window probes

/-- All values found. -/
def union (found : List Data.NameSet) : Data.NameSet := found.foldl .union .empty

/-- The values found by any of the probes. -/
def fetchUnion (store : Store) (scope : Scope) (window : Window) (probes : List Probe) :
    Run Data.NameSet :=
  return union (← fetch store scope window probes)

/-- How many probes wait for the store at once, at the most. -/
def width (settings : DiscoverySettings) : Nat := max settings.concurrency.toNat 1

/-- There is room for a probe, whatever the settings say. -/
theorem width_pos (settings : DiscoverySettings) : 0 < width settings :=
  Nat.lt_of_lt_of_le Nat.one_pos (Nat.le_max_right ..)

/-- How many of so many probes wait at once, if each has to wait. -/
def peakInFlight (settings : DiscoverySettings) (sent : Nat) : Nat := min (width settings) sent

end RpcMetrics.Discovery
