import RpcMetrics.Duration.Text
import RpcMetrics.Settings.Basic

/-!
# Settings as values

Settings are written in JSON and read from values of the same shape.  Every section and every
setting may be left out.  JSON is read as it stands.  A configuration file or the environment may
spell a scalar in another form, which `ScalarReading.lenient` turns into the one that is wanted.
-/
namespace RpcMetrics

/-- How scalars are read. -/
structure ScalarReading where
  unsigned : Json → Option UInt64
  text : Json → Option String
  /-- Whether arrays may be longer than the records they stand for. -/
  spareItems : Bool

namespace ScalarReading

/-- Scalars as they stand. -/
def strict : ScalarReading := ⟨Json.toUInt64?, Json.toText?, false⟩

/-- The text of a number: the shortest digits around a point, without one if it is whole. -/
def numberLayout : Decimal.Layout := ⟨.away, none, false⟩

/-- Any scalar as a text. -/
def lenientText : Json → Option String
  | .string text => some text
  | .bool value => some (if value then "true" else "false")
  | .integer n => some (Decimal.writeInt n)
  | .float x => some (numberLayout.write x)
  | _ => none

/-- The number that a word for a truth value or a row of digits stands for. -/
def wordNumber (text : String) : Option UInt64 :=
  match Text.lower text with
  | "true" | "on" | "yes" => some 1
  | "false" | "off" | "no" => some 0
  | _ => (Decimal.readUnsigned text).map UInt64.ofNat

/-- Any scalar as a whole number: doubles are rounded and kept within 64 bits. -/
def lenientUnsigned : Json → Option UInt64
  | .bool value => some (if value then 1 else 0)
  | .float x => some x.round.toUInt64
  | .string text => wordNumber text
  | value => value.toUInt64?

/-- Any scalar as the scalar that is wanted. -/
def lenient : ScalarReading := ⟨lenientUnsigned, lenientText, true⟩

/-- A span of time. -/
def span (reading : ScalarReading) (value : Json) : Option Duration :=
  (reading.text value).bind Duration.read

/-- Texts under keys. -/
def texts (reading : ScalarReading) : Json → Option (Data.Dictionary String)
  | .object members => do
    let entries ← members.mapM fun member =>
      (reading.text member.2).map fun text => (member.1, text)
    return .ofList entries
  | _ => none

end ScalarReading

def Duration.toJson (d : Duration) : Json := .string d.write

namespace StoreSettings

def toJson (settings : StoreSettings) : Json :=
  .object [("url", .string settings.url), ("timeout", settings.timeout.toJson)]

def read (reading : ScalarReading) (value : Json) : Option StoreSettings := do
  let record ← value.toRecord? ["url", "timeout"] reading.spareItems
  let default : StoreSettings := {}
  return {
    url := ← record.defaulted "url" reading.text default.url
    timeout := ← record.defaulted "timeout" reading.span default.timeout }

end StoreSettings

namespace QuerySettings

def fields : List String :=
  ["default_duration", "max_duration", "min_interval", "max_option_limit"]

def toJson (settings : QuerySettings) : Json :=
  .object [("default_duration", settings.rules.defaultSpan.toJson),
    ("max_duration", settings.rules.maxSpan.toJson),
    ("min_interval", settings.rules.minInterval.toJson),
    ("max_option_limit", .ofUInt64 settings.optionLimit)]

def read (reading : ScalarReading) (value : Json) : Option QuerySettings := do
  let record ← value.toRecord? fields reading.spareItems
  let default : QuerySettings := {}
  return {
    rules := {
      defaultSpan := ← record.defaulted "default_duration" reading.span default.rules.defaultSpan
      maxSpan := ← record.defaulted "max_duration" reading.span default.rules.maxSpan
      minInterval := ← record.defaulted "min_interval" reading.span default.rules.minInterval }
    optionLimit := ← record.defaulted "max_option_limit" reading.unsigned default.optionLimit }

end QuerySettings

namespace DiscoverySettings

def toJson (settings : DiscoverySettings) : Json :=
  .object [("concurrency", .ofUInt64 settings.concurrency),
    ("probe_timeout", .ofOption Duration.toJson settings.probeTimeout)]

def read (reading : ScalarReading) (value : Json) : Option DiscoverySettings := do
  let record ← value.toRecord? ["concurrency", "probe_timeout"] reading.spareItems
  let default : DiscoverySettings := {}
  return {
    concurrency := ← record.defaulted "concurrency" reading.unsigned default.concurrency
    probeTimeout := ← record.defaulted "probe_timeout" (Json.toOption? reading.span)
      default.probeTimeout }

end DiscoverySettings

namespace TableNaming

def toJson (naming : TableNaming) : Json :=
  .object [("prefix", .string naming.middle),
    ("overrides",
      .object (naming.overrides.entries.map fun entry => (entry.1, .string entry.2)))]

def read (reading : ScalarReading) (value : Json) : Option TableNaming := do
  let record ← value.toRecord? ["prefix", "overrides"] reading.spareItems
  let default : TableNaming := ({} : Settings).table
  return {
    middle := ← record.defaulted "prefix" reading.text default.middle
    overrides := ← record.defaulted "overrides" reading.texts default.overrides }

end TableNaming

namespace LoggingSettings

def toJson (settings : LoggingSettings) : Json :=
  .object [("level", .string settings.level), ("format", .string settings.format)]

def read (reading : ScalarReading) (value : Json) : Option LoggingSettings := do
  let record ← value.toRecord? ["level", "format"] reading.spareItems
  let default : LoggingSettings := {}
  return {
    level := ← record.defaulted "level" reading.text default.level
    format := ← record.defaulted "format" reading.text default.format }

end LoggingSettings

namespace Settings

/-- The sections. -/
def fields : List String := ["store", "query", "discovery", "table", "logging"]

def toJson (settings : Settings) : Json :=
  .object [("store", settings.store.toJson), ("query", settings.query.toJson),
    ("discovery", settings.discovery.toJson), ("table", settings.table.toJson),
    ("logging", settings.logging.toJson)]

def read (reading : ScalarReading) (value : Json) : Option Settings := do
  let record ← value.toRecord? fields reading.spareItems
  return {
    store := ← record.defaulted "store" (StoreSettings.read reading) {}
    query := ← record.defaulted "query" (QuerySettings.read reading) {}
    discovery := ← record.defaulted "discovery" (DiscoverySettings.read reading) {}
    table := ← record.defaulted "table" (TableNaming.read reading) ({} : Settings).table
    logging := ← record.defaulted "logging" (LoggingSettings.read reading) {} }

def ofJson? (json : Json) : Option Settings := read .strict json

end Settings
end RpcMetrics
