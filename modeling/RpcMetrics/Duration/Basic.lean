import RpcMetrics.Decimal.Integer

/-!
# Spans of time

A span is a whole number of seconds and of nanoseconds within one second.  It is written in two
ways: `Duration.unitText`, in the largest unit with a whole part, is for messages; the sum of
units of `RpcMetrics.Duration.Text` is for settings and can be read.
-/
namespace RpcMetrics

/-- A span of time. -/
structure Duration where
  /-- The whole seconds. -/
  seconds : UInt64
  /-- The nanoseconds beyond them. -/
  nanos : Fin 1000000000
  deriving DecidableEq, Repr

namespace Duration

/-- How many nanoseconds a second has. -/
def nanosPerSecond : Nat := 1000000000

/-- A span of whole seconds. -/
def ofSeconds (seconds : UInt64) : Duration := ⟨seconds, 0⟩

/-- A span given in nanoseconds; seconds beyond the range wrap. -/
def ofNanos (nanos : Nat) : Duration :=
  ⟨UInt64.ofNat (nanos / nanosPerSecond), ⟨nanos % nanosPerSecond, Nat.mod_lt _ (by decide)⟩⟩

/-- A span given in milliseconds. -/
def ofMillis (millis : Nat) : Duration := ofNanos (millis * 1000000)

/-- The length in nanoseconds. -/
def toNanos (d : Duration) : Nat := d.seconds.toNat * nanosPerSecond + d.nanos

/-- Digits without the zeros at their end. -/
def dropZerosAtEnd (digits : List Char) : List Char :=
  (digits.reverse.dropWhile (· == '0')).reverse

/-- A whole part and so many digits of fraction, without zeros at the end, and a unit. -/
def decimalText (whole fraction places : Nat) (unit : String) : String :=
  let digits := Decimal.digitsOf fraction
  let shown := dropZerosAtEnd (List.replicate (places - digits.length) '0' ++ digits)
  Decimal.writeNat whole ++ (if shown.isEmpty then "" else "." ++ String.ofList shown) ++ unit

/-- The span in the largest of the units second, millisecond, microsecond and nanosecond that
has a whole part, with a decimal fraction. -/
def unitText (d : Duration) : String :=
  let nanos : Nat := d.nanos
  if d.seconds ≠ 0 then decimalText d.seconds.toNat nanos 9 "s"
  else if 1000000 ≤ nanos then decimalText (nanos / 1000000) (nanos % 1000000) 6 "ms"
  else if 1000 ≤ nanos then decimalText (nanos / 1000) (nanos % 1000) 3 "µs"
  else decimalText nanos 0 0 "ns"

end Duration
end RpcMetrics
