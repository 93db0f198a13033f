import RpcMetrics.Decimal.Shortest

/-!
# Written doubles

The digits of a double are laid out either around a decimal point or before a power of ten.
`Layout` gathers the choices, so that each place that writes numbers names its own.  A layout
writes the shortest digits; `fixed` writes a given number of places instead.
-/
namespace RpcMetrics.Decimal

/-- The choices in writing a double by its shortest digits. -/
structure Layout where
  /-- Which of two equally near decimals is written. -/
  tie : Tie
  /-- The least and the greatest decimal exponent written around a point; all if `none`. -/
  positional : Option (Int × Int)
  /-- Whether a whole number is followed by a point and a zero. -/
  pointed : Bool

/-- Whether a number with the decimal exponent `magnitude` is written around a point. -/
def Layout.isPositional (layout : Layout) (magnitude : Int) : Bool :=
  match layout.positional with
  | none => true
  | some (least, greatest) => decide (least ≤ magnitude) && decide (magnitude ≤ greatest)

/-- So many zeros. -/
def zeros (count : Nat) : String := String.ofList (List.replicate count '0')

/-- The decimal digits of a whole number. -/
def digitsOf (n : Nat) : List Char := Nat.toDigits 10 n

/-- Digits around a point. -/
def Layout.around (layout : Layout) (s : Scaled) : String :=
  let digits := digitsOf s.digits
  let magnitude := s.exponent + digits.length - 1
  if 0 ≤ s.exponent then
    String.ofList digits ++ zeros s.exponent.toNat ++ (if layout.pointed then ".0" else "")
  else if 0 ≤ magnitude then
    let whole := (magnitude + 1).toNat
    String.ofList (digits.take whole) ++ "." ++ String.ofList (digits.drop whole)
  else
    "0." ++ zeros (-magnitude - 1).toNat ++ String.ofList digits

/-- One digit, a point and the rest of them if there are any, and the power of ten, whose sign
is always written. -/
def scientific (s : Scaled) : String :=
  let digits := digitsOf s.digits
  let magnitude := s.exponent + digits.length - 1
  let rest := digits.drop 1
  String.ofList (digits.take 1) ++ (if rest.isEmpty then "" else "." ++ String.ofList rest)
    ++ (if magnitude < 0 then "e-" else "e+") ++ String.ofList (digitsOf magnitude.natAbs)

def minus (negative : Bool) : String := if negative then "-" else ""

def Layout.write (layout : Layout) (x : Float) : String :=
  match Binary64.ofFloat x with
  | .undefined => "NaN"
  | .infinite negative => minus negative ++ "inf"
  | .finite value =>
    let s := value.shortest layout.tie
    let magnitude := s.exponent + (digitsOf s.digits).length - 1
    minus value.negative ++
      (if layout.isPositional magnitude then layout.around s else scientific s)

/-- A quotient rounded to a whole number, an exact half to the even one. -/
def roundDiv (numerator denominator : Nat) : Nat :=
  let quotient := numerator / denominator
  let twice := 2 * (numerator % denominator)
  if twice < denominator then quotient
  else if denominator < twice then quotient + 1
  else if quotient % 2 = 0 then quotient else quotient + 1

/-- The text of a double with a given number of decimal places, rounded from the exact value. -/
def fixed (places : Nat) (x : Float) : String :=
  match Binary64.ofFloat x with
  | .undefined => "NaN"
  | .infinite negative => minus negative ++ "inf"
  | .finite value =>
    let (numerator, denominator) := ratio value.significand value.exponent (0 - places)
    let digits := digitsOf (roundDiv numerator denominator)
    let padded := List.replicate (places + 1 - digits.length) '0' ++ digits
    let whole := padded.length - places
    minus value.negative ++ String.ofList (padded.take whole) ++
      (if places = 0 then "" else "." ++ String.ofList (padded.drop whole))

end RpcMetrics.Decimal
