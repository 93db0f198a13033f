import RpcMetrics.Duration.Basic
import RpcMetrics.Text.Blank

/-!
# Spans of time in settings

A span is written as a sum of numbers with units, such as `1h 30m` or `1.5s`.  Blanks may stand
between and inside the numbers.  A decimal fraction is allowed where it comes to a whole number
of nanoseconds, or of seconds for units of an hour and more.  Nothing is rounded, and a span that
does not fit in 64 bits of seconds is refused.  `Duration.write` gives one such text for each
span, with months of 30.44 days and years of 365.25.
-/
namespace RpcMetrics.Duration

/-- The units of the written form. -/
inductive TimeUnit where
  | nanosecond
  | microsecond
  | millisecond
  | second
  | minute
  | hour
  | day
  | week
  | month
  | year
  deriving DecidableEq, Repr

namespace TimeUnit

/-- The names that are read as a unit. -/
def names : TimeUnit → List String
  | nanosecond => ["nanos", "nsec", "ns"]
  | microsecond => ["usec", "us", "µs"]
  | millisecond => ["millis", "msec", "ms"]
  | second => ["seconds", "second", "secs", "sec", "s"]
  | minute => ["minutes", "minute", "min", "mins", "m"]
  | hour => ["hours", "hour", "hrs", "hr", "h"]
  | day => ["days", "day", "d"]
  | week => ["weeks", "week", "wk", "wks", "w"]
  | month => ["months", "month", "M"]
  | year => ["years", "year", "yr", "yrs", "y"]

/-- All units, smallest first. -/
def all : List TimeUnit :=
  [nanosecond, microsecond, millisecond, second, minute, hour, day, week, month, year]

def ofName? (name : String) : Option TimeUnit := all.find? fun unit => unit.names.contains name

/-- The unit in nanoseconds, if it is shorter than a second. -/
def nanos? : TimeUnit → Option Nat
  | nanosecond => some 1
  | microsecond => some 1000
  | millisecond => some 1000000
  | _ => none

/-- The unit in seconds, if it is not shorter than one. -/
def seconds : TimeUnit → Nat
  | nanosecond | microsecond | millisecond => 0
  | second => 1
  | minute => 60
  | hour => 3600
  | day => 86400
  | week => 604800
  | month => 2630016
  | year => 31557600

/-- The finest whole amount that a fraction of the unit may come to: its nanoseconds up to the
minute and its seconds from the hour on.  A nanosecond has no fractions. -/
inductive Grain where
  | none
  | nanos (count : Nat)
  | seconds (count : Nat)

/-- The grain of each unit. -/
def grain : TimeUnit → Grain
  | nanosecond => .none
  | microsecond => .nanos 1000
  | millisecond => .nanos 1000000
  | second => .nanos 1000000000
  | minute => .nanos 60000000000
  | unit => .seconds unit.seconds

end TimeUnit

/-- Seconds and nanoseconds read so far. -/
structure Amount where
  /-- The seconds. -/
  seconds : Nat
  /-- The nanoseconds, below a second once added up. -/
  nanos : Nat

/-- The number, if it fits in 64 bits. -/
def fitting (n : Nat) : Option Nat := if n ≤ Decimal.maxUnsigned then some n else none

/-- The sum of two amounts, if none of its parts outgrows 64 bits. -/
def Amount.add (total added : Amount) : Option Amount := do
  let nanos ← fitting (total.nanos + added.nanos)
  let seconds ← fitting (total.seconds + added.seconds + nanos / nanosPerSecond)
  return ⟨seconds, nanos % nanosPerSecond⟩

/-- The digits of a number with a fraction: those before and those after the point. -/
structure Numeral where
  whole : List Char
  /-- The digits after the point, if there is one. -/
  fraction : Option (List Char)

/-- The whole part of a numeral in a unit. -/
def wholeAmount (n : Nat) (unit : TimeUnit) : Option Amount :=
  match unit.nanos? with
  | some nanos => (fitting (n * nanos)).map fun nanos => ⟨0, nanos⟩
  | none => (fitting (n * unit.seconds)).map fun seconds => ⟨seconds, 0⟩

/-- The share `digits / 10 ^ length` of a number, if it is whole and stays within 64 bits. -/
def share (digits : List Char) (count : Nat) : Option Nat := do
  let denominator ← fitting (Nat.pow 10 digits.length)
  let product ← fitting (Nat.ofDigitChars 10 digits 0 * count)
  if product % denominator = 0 then some (product / denominator) else none

/-- The fraction of a numeral in a unit. -/
def fractionAmount (digits : List Char) (unit : TimeUnit) : Option Amount :=
  if digits.isEmpty then none
  else
    match unit.grain with
    | .none => none
    | .nanos count => (share digits count).map fun nanos => ⟨0, nanos⟩
    | .seconds count => (share digits count).map fun seconds => ⟨seconds, 0⟩

/-- A numeral in a unit, added to what was read before. -/
def Amount.addNumeral (total : Amount) (numeral : Numeral) (unit : TimeUnit) : Option Amount := do
  let n ← fitting (Nat.ofDigitChars 10 numeral.whole 0)
  let total ← total.add (← wholeAmount n unit)
  match numeral.fraction with
  | none => return total
  | some digits => total.add (← fractionAmount digits unit)

/-- Whether the character may stand inside a number, where blanks are looked through. -/
def isNumeralChar (c : Char) : Bool := c.isDigit || Text.isBlank c

/-- Whether the character may stand in the name of a unit. -/
def isUnitChar (c : Char) : Bool := c.isAlpha || c == 'µ'

/-- The leading numeral of a text, and what comes after it. -/
def takeNumeral (text : List Char) : Numeral × List Char :=
  let whole := (text.takeWhile isNumeralChar).filter Char.isDigit
  match text.dropWhile isNumeralChar with
  | '.' :: rest =>
    (⟨whole, some ((rest.takeWhile isNumeralChar).filter Char.isDigit)⟩,
      rest.dropWhile isNumeralChar)
  | rest => (⟨whole, none⟩, rest)

/-- Adds up the parts of a text, each of which begins with a digit.  Every part takes a character
at least, so `fuel` need not exceed the length. -/
def readParts : Nat → Amount → List Char → Option Amount
  | _, total, [] => some total
  | 0, _, _ => none
  | fuel + 1, total, first :: text =>
    if first.isDigit then do
      let (numeral, rest) := takeNumeral (first :: text)
      let unit ← TimeUnit.ofName? (String.ofList (rest.takeWhile isUnitChar))
      let total ← total.addNumeral numeral unit
      readParts fuel total (Text.dropBlanks (rest.dropWhile isUnitChar))
    else none

/-- Reads a sum of numbers with units; only a lone zero needs no unit. -/
def read (text : String) : Option Duration := do
  if text = "0" then return ofSeconds 0
  let parts := Text.dropBlanks text.toList
  if parts.isEmpty then none
  let total ← readParts parts.length ⟨0, 0⟩ parts
  return ⟨UInt64.ofNat total.seconds,
    ⟨total.nanos % nanosPerSecond, Nat.mod_lt _ (by decide)⟩⟩

/-- A counted unit whose name takes an `s` above one. -/
def plural (count : Nat) (unit : String) : Nat × String :=
  (count, if 1 < count then unit ++ "s" else unit)

/-- The parts of a span, largest unit first. -/
def parts (d : Duration) : List (Nat × String) :=
  let years := d.seconds.toNat / 31557600
  let inYear := d.seconds.toNat % 31557600
  let inMonth := inYear % 2630016
  let inDay := inMonth % 86400
  let nanos : Nat := d.nanos
  [plural years "year", plural (inYear / 2630016) "month", plural (inMonth / 86400) "day",
    (inDay / 3600, "h"), (inDay % 3600 / 60, "m"), (inDay % 60, "s"),
    (nanos / 1000000, "ms"), (nanos / 1000 % 1000, "us"), (nanos % 1000, "ns")]

/-- Writes a span as the sum of its parts, without the zero ones. -/
def write (d : Duration) : String :=
  let shown := d.parts.filter fun part => part.1 ≠ 0
  if shown.isEmpty then "0s"
  else " ".intercalate (shown.map fun part => Decimal.writeNat part.1 ++ part.2)

end RpcMetrics.Duration
