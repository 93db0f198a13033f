import RpcMetrics.Decimal.Binary64
import RpcMetrics.Decimal.Nearest
import RpcMetrics.Toml.Value

/-!
# Numbers in TOML

Whole numbers are written in base ten, sixteen, eight or two and have to fit in 64 bits.  Doubles
have a fraction or an exponent.  Underscores may stand between digits.
-/
namespace RpcMetrics.Toml

/-- Digits with single underscores between them, at the start of a text.  The underscores are
left out. -/
def takeDigits (isDigit : Char → Bool) : List Char → Option (List Char × List Char)
  | [] => none
  | c :: '_' :: rest =>
    if isDigit c then
      (takeDigits isDigit rest).map fun (digits, rest) => (c :: digits, rest)
    else none
  | c :: rest =>
    if isDigit c then
      match takeDigits isDigit rest with
      | some (digits, rest) => some (c :: digits, rest)
      | none => some ([c], rest)
    else none

/-- Whether the character is a digit in base sixteen. -/
def isHexDigit (c : Char) : Bool := (Json.hexDigit? c).isSome

/-- A whole number, if it fits in 64 bits. -/
def whole (n : Int) : Option Value :=
  if Decimal.minSigned ≤ n ∧ n ≤ Decimal.maxSigned then some (.integer n) else none

/-- A whole number in another base, after its mark. -/
def takeInBase (base : Nat) (isDigit : Char → Bool) (text : List Char) :
    Option (Value × List Char) := do
  let (digits, rest) ← takeDigits isDigit text
  let n := digits.foldl (fun n c => n * base + (Json.hexDigit? c).getD 0) 0
  return (← whole n, rest)

/-- The sign at the start of a text, which is negative if the first part is true. -/
def takeSign : List Char → Bool × List Char
  | '-' :: rest => (true, rest)
  | '+' :: rest => (false, rest)
  | text => (false, text)

/-- A fraction at the start of a text, if a point begins one. -/
def takeFraction : List Char → Option (Option (List Char) × List Char)
  | '.' :: rest => (takeDigits Char.isDigit rest).map fun (digits, rest) => (some digits, rest)
  | text => some (none, text)

/-- An exponent at the start of a text, if a mark begins one. -/
def takeExponent (text : List Char) : Option (Option Int × List Char) :=
  match text with
  | 'e' :: rest | 'E' :: rest => do
    let (negative, rest) := takeSign rest
    let (digits, rest) ← takeDigits Char.isDigit rest
    let n : Int := Nat.ofDigitChars 10 digits 0
    return (some (if negative then 0 - n else n), rest)
  | _ => some (none, text)

/-- A double, unless it is beyond all doubles above zero. -/
def double (negative : Bool) (digits : List Char) (exponent : Int) : Option Value :=
  let x := Decimal.nearest (Nat.ofDigitChars 10 digits 0) exponent
  if negative then some (.double (-x))
  else if Decimal.isFinite x then some (.double x)
  else none

/-- The part of a number before its point; only a lone zero begins with zero. -/
def takeWhole : List Char → Option (List Char × List Char)
  | '0' :: rest => some (['0'], rest)
  | text => takeDigits Char.isDigit text

/-- A number in base ten after its sign. -/
def takeDecimal (negative : Bool) (text : List Char) : Option (Value × List Char) := do
  let (digits, rest) ← takeWhole text
  let (fraction, rest) ← takeFraction rest
  let (exponent, rest) ← takeExponent rest
  if fraction.isNone && exponent.isNone then
    let n : Int := Nat.ofDigitChars 10 digits 0
    return (← whole (if negative then 0 - n else n), rest)
  else
    let places := fraction.getD []
    return (← double negative (digits ++ places) (exponent.getD 0 - places.length), rest)

/-- A number at the start of a text. -/
def takeNumber (text : List Char) : Option (Value × List Char) :=
  match text with
  | '0' :: 'x' :: rest => takeInBase 16 isHexDigit rest
  | '0' :: 'o' :: rest => takeInBase 8 (fun c => decide ('0' ≤ c) && decide (c ≤ '7')) rest
  | '0' :: 'b' :: rest => takeInBase 2 (fun c => c == '0' || c == '1') rest
  | _ =>
    match takeSign text with
    | (negative, 'i' :: 'n' :: 'f' :: rest) =>
      some (.double (if negative then -1.0 / 0.0 else 1.0 / 0.0), rest)
    | (_, 'n' :: 'a' :: 'n' :: rest) => some (.double (0.0 / 0.0), rest)
    | (negative, rest) => takeDecimal negative rest

/-- A number or a moment at the start of a text. -/
def takeNumeric (text : List Char) : Option (Value × List Char) :=
  if startsDate text || startsClock text then
    (Moment.take text).map fun (moment, rest) => (.moment moment, rest)
  else takeNumber text

end RpcMetrics.Toml
