import RpcMetrics.Decimal.Layout

/-!
# Whole numbers in text

A whole number is read from ASCII digits after an optional sign.  Reading fails on any other
character, on a text without digits and on a number outside the range asked for; there is no
rounding and no wrapping.  What `writeInt` writes, `readInt` reads.
-/
namespace RpcMetrics.Decimal

/-- The greatest unsigned number of 64 bits. -/
def maxUnsigned : Nat := 0xFFFFFFFFFFFFFFFF

/-- The least signed number of 64 bits. -/
def minSigned : Int := -0x8000000000000000

/-- The greatest signed number of 64 bits. -/
def maxSigned : Int := 0x7FFFFFFFFFFFFFFF

/-- The value of one or more ASCII digits. -/
def readDigits (text : List Char) : Option Nat :=
  if text.isEmpty || !text.all Char.isDigit then none
  else some (Nat.ofDigitChars 10 text 0)

/-- An unsigned number of 64 bits, which a plus sign may precede. -/
def readUnsigned (text : String) : Option Nat :=
  let digits := match text.toList with
    | '+' :: rest => rest
    | rest => rest
  (readDigits digits).filter fun n => decide (n ≤ maxUnsigned)

/-- A signed number of 64 bits. -/
def readSigned (text : String) : Option Int :=
  let value : Option Int := match text.toList with
    | '-' :: rest => (readDigits rest).map fun n => 0 - (n : Int)
    | '+' :: rest => (readDigits rest).map Int.ofNat
    | rest => (readDigits rest).map Int.ofNat
  value.filter fun n => decide (minSigned ≤ n) && decide (n ≤ maxSigned)

/-- The digits of a whole number after its sign. -/
def writeInt (n : Int) : String := minus (decide (n < 0)) ++ String.ofList (digitsOf n.natAbs)

/-- The digits of a natural number. -/
def writeNat (n : Nat) : String := String.ofList (digitsOf n)

/-- **Digits read back.** -/
theorem readDigits_digitsOf (n : Nat) : readDigits (digitsOf n) = some n := by
  have hdigits : ∀ c ∈ Nat.toDigits 10 n, c.isDigit = true :=
    fun c hc => Nat.isDigit_of_mem_toDigits (by decide) (by decide) hc
  simpa [readDigits, digitsOf, Nat.toDigits_ne_nil, Nat.ofDigitChars_toDigits] using hdigits

end RpcMetrics.Decimal
