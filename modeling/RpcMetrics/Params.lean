import RpcMetrics.Catalog
import RpcMetrics.Json.Record

/-!
# Parameters in JSON

The parameters of calculations and the settings found out about servers, in JSON.  Every parameter
may be null or left out.
-/
namespace RpcMetrics

namespace Params

/-- The parameters of a window. -/
def ofWindow (start stop : Option Int64) : Params := { start, stop }

/-- The parameters of a ranking. -/
def ofRanking (ranked : Calculation) (limit : UInt64) : Params :=
  { ranked := some ranked, limit := some limit }

/-- The members of parameters. -/
def fields : List String := ["start_time", "end_time", "qs_type", "limit"]

def toJson (params : Params) : Json :=
  .object [("start_time", .ofOption .ofInt64 params.start),
    ("end_time", .ofOption .ofInt64 params.stop),
    ("qs_type", .ofOption (fun c => .string c.name) params.ranked),
    ("limit", .ofOption .ofUInt64 params.limit)]

/-- Reads parameters. -/
def ofJson? (json : Json) : Option Params := do
  let record ← json.toRecord? fields false
  return {
    start := ← record.defaulted "start_time" (Json.toOption? Json.toInt64?) none
    stop := ← record.defaulted "end_time" (Json.toOption? Json.toInt64?) none
    ranked := ← record.defaulted "qs_type" (Json.toOption? (Json.toNamed? Calculation.ofName?))
      none
    limit := ← record.defaulted "limit" (Json.toOption? Json.toUInt64?) none }

end Params

namespace ServerProfile

def toJson (profile : ServerProfile) : Json :=
  .object [("temporality", .string profile.temporality.name)]

/-- Reads the settings of a server. -/
def ofJson? (json : Json) : Option ServerProfile := do
  let record ← json.toRecord? ["temporality"] false
  return ⟨← record.required "temporality" (Json.toNamed? Temporality.ofName?)⟩

end ServerProfile
end RpcMetrics
