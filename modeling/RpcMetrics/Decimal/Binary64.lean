/-!
# Doubles as exact numbers

A double is not a number, an infinity, or a dyadic number: a whole significand times a power of
two, with a sign that zero keeps as well.  The reading goes through the bits alone, so that what
is said of printed numbers is said in exact arithmetic.
-/
namespace RpcMetrics.Decimal

/-- A finite double: `significand · 2 ^ exponent`, negated if `negative`. -/
structure Dyadic where
  /-- Whether the sign bit is set; zero has a sign too. -/
  negative : Bool
  /-- The whole significand, below `2 ^ 53`. -/
  significand : Nat
  /-- The power of two it is scaled by. -/
  exponent : Int
  deriving DecidableEq, Repr

/-- The three kinds of double. -/
inductive Binary64 where
  | finite (value : Dyadic)
  | infinite (negative : Bool)
  /-- No number at all. -/
  | undefined
  deriving DecidableEq, Repr

/-- The least exponent, which subnormal numbers and zero share with the smallest normal ones. -/
def leastExponent : Int := -1074

/-- The significand that begins a binade; below it the neighbour is twice as near. -/
def leadingSignificand : Nat := 0x10000000000000

/-- Reads the fields of the interchange format: sign, biased exponent, fraction. -/
def Binary64.ofBits (bits : UInt64) : Binary64 :=
  let negative := bits.toNat / 0x8000000000000000 == 1
  let biased := bits.toNat / leadingSignificand % 0x800
  let fraction := bits.toNat % leadingSignificand
  if biased = 2047 then
    if fraction = 0 then .infinite negative else .undefined
  else if biased = 0 then
    .finite ⟨negative, fraction, leastExponent⟩
  else
    .finite ⟨negative, leadingSignificand + fraction, leastExponent + (biased - 1 : Nat)⟩

/-- The exact value of a double. -/
def Binary64.ofFloat (x : Float) : Binary64 := .ofBits x.toBits

/-- Whether a double is a number. -/
def isFinite (x : Float) : Bool :=
  match Binary64.ofFloat x with
  | .finite _ => true
  | _ => false

/-- One half is the leading significand scaled down. -/
example : Binary64.ofBits 0x3FE0000000000000 = .finite ⟨false, 2 ^ 52, -53⟩ := by decide

/-- The least positive double. -/
example : Binary64.ofBits 1 = .finite ⟨false, 1, -1074⟩ := by decide

/-- Zero keeps its sign. -/
example : Binary64.ofBits 0x8000000000000000 = .finite ⟨true, 0, -1074⟩ := by decide

end RpcMetrics.Decimal
