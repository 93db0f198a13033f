import RpcMetrics.Json.Record
import RpcMetrics.Duration.Basic

/-!
# Windows of time

Requests bound a window in seconds, and the store wants it in milliseconds.  `resolve` puts the
two together: bounds that are left out are filled in from the clock, the start is kept within the
longest span that may be asked for and the end before the clock, each on its own.  Numbers that
outgrow 64 bits are kept at the bound of their range, so that no window wraps around.
-/
namespace RpcMetrics

/-- The 64-bit number nearest to a whole number. -/
def saturate (n : Int) : Int64 :=
  Int64.ofInt (max Decimal.minSigned (min Decimal.maxSigned n))

/-- How many units of the store a second has. -/
def unitsPerSecond : Int := 1000

/-- A span of the store's time, in milliseconds. -/
structure Window where
  start : Int64
  stop : Int64
  deriving DecidableEq, Repr

namespace Window

/-- The length in whole seconds; a window that ends before it starts has none. -/
def seconds (window : Window) : UInt64 :=
  UInt64.ofNat ((saturate (window.stop.toInt - window.start.toInt)).toInt.tdiv unitsPerSecond).toNat

def fields : List String := ["start_ms", "end_ms"]

def toJson (window : Window) : Json :=
  .object [("start_ms", .ofInt64 window.start), ("end_ms", .ofInt64 window.stop)]

def ofJson? (json : Json) : Option Window := do
  let record ← json.toRecord? fields false
  return {
    start := ← record.required "start_ms" Json.toInt64?
    stop := ← record.required "end_ms" Json.toInt64? }

end Window

/-- What bounds the windows of requests. -/
structure WindowRules where
  /-- The length of a window without a start. -/
  defaultSpan : Duration
  /-- How far back a window may start. -/
  maxSpan : Duration
  /-- The shortest step of the store. -/
  minInterval : Duration
  deriving DecidableEq, Repr

/-- The whole seconds of a span, as far as a signed number of 64 bits reaches. -/
def Duration.signedSeconds (d : Duration) : Int64 := saturate d.seconds.toNat

namespace WindowRules

/-- The bound of a request: zero counts as no bound. -/
def given (bound : Option Int64) : Option Int64 := bound.filter (· ≠ 0)

/-- A moment so many seconds before another. -/
def before (moment seconds : Int64) : Int64 := saturate (moment.toInt - seconds.toInt)

/-- A moment in the store's units. -/
def toUnits (moment : Int64) : Int64 := saturate (moment.toInt * unitsPerSecond)

/-- The window of a request at a clock value, all in seconds. -/
def resolve (rules : WindowRules) (now : Int64) (start stop : Option Int64) : Window :=
  let earliest := before now rules.maxSpan.signedSeconds
  let start := (given start).getD (before now rules.defaultSpan.signedSeconds)
  let stop := (given stop).getD now
  -- each end is bounded by itself, so they may come out in the wrong order
  ⟨toUnits (max earliest start), toUnits (min now stop)⟩

/-- The step of a window in seconds: the whole window, unless the shortest step is longer. -/
def interval (rules : WindowRules) (window : Window) : UInt64 :=
  max window.seconds rules.minInterval.seconds

end WindowRules

/-- **What fits is kept, and what does not becomes a bound.** -/
theorem toInt_saturate (n : Int) :
    (saturate n).toInt = max Decimal.minSigned (min Decimal.maxSigned n) := by
  rw [saturate, Int64.toInt_ofInt_of_le]
  · simp only [Decimal.minSigned, Decimal.maxSigned]; omega
  · simp only [Decimal.minSigned, Decimal.maxSigned]; omega

/-- A number of 64 bits is its own nearest. -/
@[simp] theorem saturate_toInt (n : Int64) : saturate n.toInt = n := by
  apply Int64.toInt_inj.1
  rw [toInt_saturate]
  have hlow := n.le_toInt
  have hhigh := n.toInt_lt
  simp only [Decimal.minSigned, Decimal.maxSigned]
  omega

end RpcMetrics
