import RpcMetrics.Decimal.Integer
import RpcMetrics.Toml.Text

/-!
# Moments

A moment is a day, a time of day, or both, and then perhaps an offset from universal time.  It is
read in several spellings and written in one: a capital T stands between day and time, a capital Z
for universal time, and a fraction of a second has no zeros at its end.
-/
namespace RpcMetrics.Toml

/-- A day of the calendar. -/
structure Date where
  year : Nat
  /-- The month, from 1. -/
  month : Nat
  /-- The day of the month, from 1. -/
  day : Nat
  deriving DecidableEq, Repr

/-- A time of day. -/
structure Clock where
  hour : Nat
  /-- The minute. -/
  minute : Nat
  /-- The second, 60 in a minute that is one longer. -/
  second : Nat
  /-- The digits of the fraction of a second. -/
  fraction : List Char
  deriving DecidableEq, Repr

/-- How far a time of day is from universal time. -/
inductive Offset where
  /-- It is universal time. -/
  | universal
  /-- It is so many minutes ahead, or behind if the number is below zero. -/
  | minutes (count : Int)
  deriving DecidableEq, Repr

/-- A day, a time of day, or both with an offset. -/
structure Moment where
  date : Option Date
  clock : Option Clock := none
  /-- The offset of the time of day. -/
  offset : Option Offset := none
  deriving DecidableEq, Repr

/-! ### Writing -/

/-- A number with zeros before it, so that it has so many digits. -/
def padded (width n : Nat) : String :=
  let digits := Decimal.writeNat n
  String.ofList (List.replicate (width - digits.length) '0') ++ digits

/-- The day as it is written. -/
def Date.text (date : Date) : String :=
  padded 4 date.year ++ "-" ++ padded 2 date.month ++ "-" ++ padded 2 date.day

/-- The time of day as it is written. -/
def Clock.text (clock : Clock) : String :=
  padded 2 clock.hour ++ ":" ++ padded 2 clock.minute ++ ":" ++ padded 2 clock.second
    ++ (if clock.fraction.isEmpty then "" else "." ++ String.ofList clock.fraction)

/-- The offset as it is written. -/
def Offset.text : Offset → String
  | universal => "Z"
  | minutes count =>
    (if count < 0 then "-" else "+") ++ padded 2 (count.natAbs / 60) ++ ":"
      ++ padded 2 (count.natAbs % 60)

/-- The moment as it is written. -/
def Moment.text (moment : Moment) : String :=
  ((moment.date.map Date.text).getD "")
    ++ (if moment.date.isSome && moment.clock.isSome then "T" else "")
    ++ ((moment.clock.map Clock.text).getD "") ++ ((moment.offset.map Offset.text).getD "")

/-! ### Reading -/

/-- So many digits at the start of a text, with their number. -/
def takeExactly (count : Nat) (text : List Char) : Option (Nat × List Char) :=
  let digits := text.take count
  if digits.length = count ∧ digits.all Char.isDigit then
    some (Nat.ofDigitChars 10 digits 0, text.drop count)
  else none

/-- A number of two digits within bounds. -/
def takeTwo (low high : Nat) (text : List Char) : Option (Nat × List Char) :=
  (takeExactly 2 text).filter fun (n, _) => decide (low ≤ n) && decide (n ≤ high)

/-- How many days a month has. -/
def daysInMonth (year month : Nat) : Nat :=
  if month = 2 then
    if year % 4 = 0 ∧ (year % 100 ≠ 0 ∨ year % 400 = 0) then 29 else 28
  else if month = 4 ∨ month = 6 ∨ month = 9 ∨ month = 11 then 30
  else 31

/-- A day at the start of a text. -/
def takeDate (text : List Char) : Option (Date × List Char) := do
  let (year, rest) ← takeExactly 4 text
  let (month, rest) ← takeTwo 1 12 (← takeChar '-' rest)
  let (day, rest) ← takeTwo 1 (daysInMonth year month) (← takeChar '-' rest)
  return (⟨year, month, day⟩, rest)

/-- A fraction of a second at the start of a text, if a point begins one.  Nine digits are kept,
without the zeros at their end. -/
def takeSecondPart : List Char → Option (List Char × List Char)
  | '.' :: rest =>
    let digits := rest.takeWhile Char.isDigit
    if digits.isEmpty then none
    else
      let kept := ((digits.take 9).reverse.dropWhile (· == '0')).reverse
      some (kept, rest.dropWhile Char.isDigit)
  | text => some ([], text)

/-- A time of day at the start of a text. -/
def takeClock (text : List Char) : Option (Clock × List Char) := do
  let (hour, rest) ← takeTwo 0 23 text
  let (minute, rest) ← takeTwo 0 59 (← takeChar ':' rest)
  let (second, rest) ← takeTwo 0 60 (← takeChar ':' rest)
  let (fraction, rest) ← takeSecondPart rest
  return (⟨hour, minute, second, fraction⟩, rest)

/-- The offset with a sign before its hours and minutes. -/
def signedOffset (negative : Bool) (hours minutes : Nat) : Offset :=
  let count := 60 * hours + minutes
  .minutes (if negative then 0 - count else count)

/-- An offset at the start of a text; there may be none. -/
def takeOffset (text : List Char) : Option (Option Offset × List Char) :=
  match text with
  | 'Z' :: rest | 'z' :: rest => some (some .universal, rest)
  | '+' :: rest | '-' :: rest => do
    let (hours, rest) ← takeTwo 0 23 rest
    let (minutes, rest) ← takeTwo 0 59 (← takeChar ':' rest)
    return (signedOffset (text.head? == some '-') hours minutes, rest)
  | _ => some (none, text)

/-- Whether a text begins with two digits and a colon. -/
def startsClock : List Char → Bool
  | a :: b :: c :: _ => a.isDigit && b.isDigit && c == ':'
  | _ => false

/-- Whether a text begins with four digits and a hyphen. -/
def startsDate (text : List Char) : Bool :=
  (takeExactly 4 text).any fun (_, rest) => rest.head? == some '-'

/-- Whether the character may stand between a day and a time of day. -/
def isDateMark (c : Char) : Bool := c == 'T' || c == 't' || c == ' '

/-- A moment at the start of a text that begins one. -/
def Moment.take (text : List Char) : Option (Moment × List Char) :=
  if startsDate text then do
    let (date, rest) ← takeDate text
    match rest with
    | mark :: time =>
      if isDateMark mark && startsClock time then do
        let (clock, rest) ← takeClock time
        let (offset, rest) ← takeOffset rest
        return (⟨date, clock, offset⟩, rest)
      else return (⟨date, none, none⟩, rest)
    | [] => return (⟨date, none, none⟩, [])
  else do
    let (clock, rest) ← takeClock text
    return (⟨none, clock, none⟩, rest)

/-- The moment that a whole text stands for. -/
def Moment.ofText? (text : String) : Option Moment :=
  match Moment.take text.toList with
  | some (moment, []) => some moment
  | _ => none

/-- An offset of no minutes is written ahead of universal time. -/
example : (Moment.ofText? "2024-02-29t23:00:60.120-00:00").map Moment.text
    = some "2024-02-29T23:00:60.12+00:00" := by decide +kernel

example : Moment.ofText? "2023-02-29" = none := by decide +kernel

end RpcMetrics.Toml
