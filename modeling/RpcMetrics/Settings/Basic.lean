import RpcMetrics.Table
import RpcMetrics.Window

/-!
# Settings

What can be set: where the store is, how windows are bounded, how tag values are discovered, how
tables are named and what is logged.  Every setting has a default.
-/
namespace RpcMetrics

/-- Where the store is. -/
structure StoreSettings where
  /-- The address that endpoints are appended to. -/
  url : String := "http://localhost:10205"
  /-- How long an exchange may take. -/
  timeout : Duration := .ofSeconds 30

/-- How windows are bounded. -/
structure QuerySettings where
  rules : WindowRules := ⟨.ofSeconds 3600, .ofSeconds 2592000, .ofSeconds 60⟩
  /-- How many rows a probe asks for at most. -/
  optionLimit : UInt64 := 9999

/-- How tag values are discovered. -/
structure DiscoverySettings where
  /-- How many probes may wait for the store at once. -/
  concurrency : UInt64 := 8
  /-- How long a probe may take, if there is a limit. -/
  probeTimeout : Option Duration := some (.ofSeconds 10)

/-- What is logged. -/
structure LoggingSettings where
  level : String := "info"
  format : String := "pretty"

/-- All settings. -/
structure Settings where
  store : StoreSettings := {}
  query : QuerySettings := {}
  discovery : DiscoverySettings := {}
  table : TableNaming := ⟨"bkapm_metric", .empty⟩
  logging : LoggingSettings := {}

end RpcMetrics
