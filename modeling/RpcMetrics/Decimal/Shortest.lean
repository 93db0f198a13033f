import RpcMetrics.Decimal.Binary64

/-!
# The fewest digits that read back

A double stands for all reals that round to it: an interval around its value whose ends belong to
it when the significand is even.  Its shortest decimal is found grid by grid.  For one digit, two
digits and so on, the two grid points next to the value are tested; the first grid with a point
in the interval wins, and of two such points the nearer.  All tests are exact, on whole numbers.
-/
namespace RpcMetrics.Decimal

/-- Which of two equally near points is taken. -/
inductive Tie where
  /-- The one with the even last digit. -/
  | even
  /-- The one farther from zero. -/
  | away
  deriving DecidableEq, Repr

/-- The decimal `digits · 10 ^ exponent`. -/
structure Scaled where
  /-- The digits, as a whole number. -/
  digits : Nat
  /-- The power of ten they are scaled by. -/
  exponent : Int
  deriving DecidableEq, Repr

/-- The reals that round to a double, in quarters of its last binary place: `low`, `value` and
`high` are whole numbers of `2 ^ exponent`. -/
structure Interval where
  low : Nat
  value : Nat
  high : Nat
  /-- Whether the ends belong to the interval. -/
  closed : Bool
  /-- The power of two that the three are scaled by. -/
  exponent : Int
  deriving DecidableEq, Repr

/-- The interval of a positive number.  Below the first significand of a binade the neighbour is
half as far away. -/
def Dyadic.interval (x : Dyadic) : Interval :=
  let narrow := x.significand == leadingSignificand && decide (leastExponent < x.exponent)
  { low := 4 * x.significand - (if narrow then 1 else 2)
    value := 4 * x.significand
    high := 4 * x.significand + 2
    closed := x.significand % 2 == 0
    exponent := x.exponent - 2 }

/-- `n · 2 ^ binary` over `10 ^ decimal`, as a numerator and a denominator. -/
def ratio (n : Nat) (binary decimal : Int) : Nat × Nat :=
  (n * Nat.pow 2 binary.toNat * Nat.pow 10 (-decimal).toNat,
    Nat.pow 2 (-binary).toNat * Nat.pow 10 decimal.toNat)

/-- Whether the point `digits · 10 ^ exponent` lies in the interval. -/
def Interval.holds (i : Interval) (point : Scaled) : Bool :=
  let (low, unit) := ratio i.low i.exponent point.exponent
  let high := (ratio i.high i.exponent point.exponent).1
  let scaled := point.digits * unit
  if i.closed then decide (low ≤ scaled) && decide (scaled ≤ high)
  else decide (low < scaled) && decide (scaled < high)

/-- The point of the grid `10 ^ exponent` for the interval: of the two next to the value the
nearer one that lies inside, if any does. -/
def Interval.pick (i : Interval) (tie : Tie) (exponent : Int) : Option Scaled :=
  let (numerator, unit) := ratio i.value i.exponent exponent
  let below : Scaled := ⟨numerator / unit, exponent⟩
  let above : Scaled := ⟨numerator / unit + 1, exponent⟩
  match i.holds below, i.holds above with
  | true, true =>
    let twice := 2 * (numerator % unit)
    if twice < unit then some below
    else if unit < twice then some above
    else match tie with
      | .away => some above
      | .even => some (if below.digits % 2 = 0 then below else above)
  | true, false => some below
  | false, true => some above
  | false, false => none

/-- How many decimal digits a whole number has; zero has one. -/
def digitCount (n : Nat) : Nat := (Nat.toDigits 10 n).length

/-- The decimal exponent of the value: `k` with `10 ^ k ≤ value < 10 ^ (k + 1)`. -/
def Interval.magnitude (i : Interval) : Int :=
  let (numerator, unit) := ratio i.value i.exponent 0
  if unit ≤ numerator then (digitCount (numerator / unit) : Int) - 1
  else 0 - (digitCount ((unit - 1) / numerator) : Int)

/-- The decimal without zeros at its end. -/
def Scaled.trimmed (s : Scaled) : Nat → Scaled
  | 0 => s
  | fuel + 1 =>
    if s.digits ≠ 0 ∧ s.digits % 10 = 0 then
      Scaled.trimmed ⟨s.digits / 10, s.exponent + 1⟩ fuel
    else s

/-- Seventeen digits always tell a double from all others. -/
def mostDigits : Nat := 17

/-- The first grid with a point inside, from `count` digits on. -/
def Interval.search (i : Interval) (tie : Tie) (magnitude : Int) : Nat → Nat → Scaled
  | _, 0 => ⟨(ratio i.value i.exponent (magnitude - mostDigits + 1)).1, magnitude - mostDigits + 1⟩
  | count, fuel + 1 =>
    match i.pick tie (magnitude - count + 1) with
    | some point => point
    | none => i.search tie magnitude (count + 1) fuel

/-- **The shortest decimal of a number** that reads back as it; zero is the digit zero. -/
def Dyadic.shortest (x : Dyadic) (tie : Tie) : Scaled :=
  if x.significand = 0 then ⟨0, 0⟩
  else
    let i := x.interval
    (i.search tie i.magnitude 1 mostDigits).trimmed mostDigits

/-- The sum of one tenth and two tenths needs all seventeen digits. -/
example : (Dyadic.mk false 0x13333333333334 (-54)).shortest .even = ⟨30000000000000004, -17⟩ := by
  decide +kernel

/-- The least positive double reads back from one digit. -/
example : (Dyadic.mk false 1 (-1074)).shortest .even = ⟨5, -324⟩ := by decide +kernel

/-- A number half way between two decimals of sixteen digits: the tie decides. -/
example : (Dyadic.mk false (2 ^ 52 + 1) (-2)).shortest .even = ⟨11258999068426242, -1⟩ ∧
    (Dyadic.mk false (2 ^ 52 + 1) (-2)).shortest .away = ⟨11258999068426243, -1⟩ := by
  decide +kernel

end RpcMetrics.Decimal
