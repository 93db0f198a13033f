import RpcMetrics.Json.Basic
import RpcMetrics.Decimal.Integer

/-!
# Numbers in JSON

A number without fraction and exponent that fits in 64 bits is whole.  Every other number becomes
a double: its leading digits, as many as fit in 64 bits, are taken as a whole number and scaled by
a power of ten, and later digits are passed over.  A number beyond all doubles has no value.
-/
namespace RpcMetrics.Json

/-- The written parts of a number. -/
structure Numeral where
  /-- Whether it has a minus sign. -/
  negative : Bool
  whole : List Char
  /-- The digits after the point, if there is one. -/
  fraction : Option (List Char)
  /-- The sign and the digits of the exponent, if there is one. -/
  exponent : Option (Bool × List Char)
  deriving DecidableEq, Repr

/-- The digits at the start of a text, one at least. -/
def takeDigits (text : List Char) : Option (List Char × List Char) :=
  let digits := text.takeWhile Char.isDigit
  if digits.isEmpty then none else some (digits, text.dropWhile Char.isDigit)

/-- The whole part at the start of a text; only a lone zero begins with zero. -/
def takeWhole : List Char → Option (List Char × List Char)
  | '0' :: rest => some (['0'], rest)
  | text => takeDigits text

/-- The fraction at the start of a text, if a point begins one. -/
def takeFraction : List Char → Option (Option (List Char) × List Char)
  | '.' :: rest => (takeDigits rest).map fun (digits, rest) => (some digits, rest)
  | text => some (none, text)

/-- The exponent after its mark. -/
def takeSignedDigits : List Char → Option ((Bool × List Char) × List Char)
  | '-' :: rest => (takeDigits rest).map fun (digits, rest) => ((true, digits), rest)
  | '+' :: rest => (takeDigits rest).map fun (digits, rest) => ((false, digits), rest)
  | text => (takeDigits text).map fun (digits, rest) => ((false, digits), rest)

/-- The exponent at the start of a text, if a mark begins one. -/
def takeExponent : List Char → Option (Option (Bool × List Char) × List Char)
  | 'e' :: rest => (takeSignedDigits rest).map fun (exponent, rest) => (some exponent, rest)
  | 'E' :: rest => (takeSignedDigits rest).map fun (exponent, rest) => (some exponent, rest)
  | text => some (none, text)

/-- The number at the start of a text after its sign. -/
def takeUnsigned (negative : Bool) (text : List Char) : Option (Numeral × List Char) := do
  let (whole, rest) ← takeWhole text
  let (fraction, rest) ← takeFraction rest
  let (exponent, rest) ← takeExponent rest
  return (⟨negative, whole, fraction, exponent⟩, rest)

/-- The number at the start of a text. -/
def takeNumeral : List Char → Option (Numeral × List Char)
  | '-' :: rest => takeUnsigned true rest
  | text => takeUnsigned false text

/-- A whole number times a power of ten, as far as the digits have been read. -/
structure Significand where
  /-- The digits that fit in 64 bits. -/
  value : Nat
  scale : Int
  /-- Whether a digit did not fit, after which none is taken. -/
  full : Bool

/-- One more digit before the point.  A digit that does not fit still scales the number. -/
def Significand.pushWhole (s : Significand) (digit : Char) : Significand :=
  let value := s.value * 10 + (digit.toNat - '0'.toNat)
  if s.full || decide (Decimal.maxUnsigned < value) then ⟨s.value, s.scale + 1, true⟩
  else ⟨value, s.scale, false⟩

/-- One more digit after the point.  A digit that does not fit is lost. -/
def Significand.pushFraction (s : Significand) (digit : Char) : Significand :=
  let value := s.value * 10 + (digit.toNat - '0'.toNat)
  if s.full || decide (Decimal.maxUnsigned < value) then { s with full := true }
  else ⟨value, s.scale - 1, false⟩

/-- The leading digits of a number. -/
def Numeral.significand (n : Numeral) : Significand :=
  let whole := n.whole.foldl Significand.pushWhole ⟨0, 0, false⟩
  ((n.fraction.getD []).foldl Significand.pushFraction { whole with full := false })

/-- The greatest power of ten that is a double. -/
def greatestPower : Nat := 308

/-- The double next to a power of ten. -/
def powerOfTen (exponent : Nat) : Float := Float.ofScientific 1 false exponent

/-- A double divided by a power of ten, in steps within the range of doubles. -/
def scaleDown (x : Float) (exponent : Nat) : Float :=
  if exponent ≤ greatestPower then x / powerOfTen exponent
  else if x == 0 then x
  else scaleDown (x / powerOfTen greatestPower) (exponent - greatestPower)
termination_by exponent
decreasing_by simp only [greatestPower] at *; omega

/-- A double times a power of ten, if the product is a double. -/
def scaleUp (x : Float) (exponent : Nat) : Option Float :=
  if exponent ≤ greatestPower then
    let product := x * powerOfTen exponent
    if Decimal.isFinite product then some product else none
  else if x == 0 then some x
  else none

/-- The bound that the digits of an exponent stay within. -/
def exponentBound : Nat := 0x7FFFFFFF

/-- A sum of exponents, kept within 32 bits. -/
def boundExponent (exponent : Int) : Int :=
  max (-0x80000000) (min (exponentBound : Int) exponent)

/-- A whole number times a power of ten as a double. -/
def scaled (significand : Nat) (exponent : Int) : Option Float :=
  let x := (UInt64.ofNat significand).toFloat
  if exponent < 0 then some (scaleDown x (-exponent).toNat) else scaleUp x exponent.toNat

/-- The magnitude of a number as a double, if it is not beyond all doubles. -/
def Numeral.magnitude (n : Numeral) : Option Float :=
  let s := n.significand
  match n.exponent with
  | none => scaled s.value s.scale
  | some (negative, digits) =>
    let exponent := Nat.ofDigitChars 10 digits 0
    if exponentBound < exponent then
      if s.value ≠ 0 && !negative then none else some 0
    else if negative then scaled s.value (boundExponent (s.scale - exponent))
    else scaled s.value (boundExponent (s.scale + exponent))

/-- The number as a double. -/
def Numeral.toFloat (n : Numeral) : Option Float :=
  n.magnitude.map fun x => if n.negative then -x else x

/-- The value of a number: whole if it is written so and fits. -/
def Numeral.value (n : Numeral) : Json :=
  let double := match n.toFloat with
    | some x => float x
    | none => unreadable
  if n.fraction.isSome || n.exponent.isSome then double
  else
    let magnitude := Nat.ofDigitChars 10 n.whole 0
    if n.negative then
      if magnitude = 0 || decide (0x8000000000000000 < magnitude) then double
      else integer (0 - magnitude)
    else if Decimal.maxUnsigned < magnitude then double
    else integer magnitude

end RpcMetrics.Json
