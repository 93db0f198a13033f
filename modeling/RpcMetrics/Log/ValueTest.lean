import RpcMetrics.Log.Record
import RpcMetrics.Pattern.Meaning

/-!
# Tests of values

What a log directive asks of the value of a field.  A text that stands for a number without a
sign asks for that number, and one that is no number or truth value asks for texts that it fits
as a pattern.
-/
namespace RpcMetrics.Log

/-- What is asked of a value. -/
inductive ValueTest where
  | number (n : Nat)
  /-- It is a text that fits a pattern, which is written so. -/
  | pattern (written : String) (form : Pattern)
  /-- It is of a kind that no field has: a truth value, a double or a number below zero. -/
  | absent
  deriving DecidableEq, Repr

namespace ValueTest

/-- Whether a text stands for a number in base ten after its sign, with a fraction and an
exponent if it has them. -/
def isDecimal (text : List Char) : Bool :=
  let rest := text.dropWhile Char.isDigit
  let places := if rest.head? = some '.' then rest.drop 1 else []
  let rest := if rest.head? = some '.' then (rest.drop 1).dropWhile Char.isDigit else rest
  let hasDigits := text.head?.any Char.isDigit || places.head?.any Char.isDigit
  let hasEnd := match rest with
    | [] => true
    | 'e' :: sign :: digits | 'E' :: sign :: digits =>
      let digits := if sign = '+' ∨ sign = '-' then digits else sign :: digits
      !digits.isEmpty && digits.all Char.isDigit
    | _ => false
  hasDigits && hasEnd

/-- Whether a text stands for a double. -/
def isDouble (text : String) : Bool :=
  let text := match text.toList with
    | '+' :: rest | '-' :: rest => rest
    | rest => rest
  ["inf", "infinity", "nan"].contains (String.ofList (text.map Char.toLower)) || isDecimal text

/-- What a text asks. -/
def ofText? (text : String) : Option ValueTest :=
  if text = "true" ∨ text = "false" then some .absent
  else
    match Decimal.readUnsigned text with
    | some n => some (.number n)
    | none =>
      if isDouble text then some .absent else (Pattern.ofText? text).map (.pattern text ·)

/-- An identifier as it is drawn.  Tests are put to this one in place of any other. -/
def someIdentifier : String := "3f0a6b52-7c1d-4e98-b2f4-d8650e17c9a3"

/-- Whether a value is what is asked for. -/
def holds : ValueTest → Value → Bool
  | number n, .number value => (n : Int) == value
  | pattern _ form, .text content => form.fits content
  | pattern _ form, .identifier => form.fits someIdentifier
  | _, _ => false

/-- A number has to be the same, and a pattern has to fit. -/
example : (ofText? "+2").map (holds · (.number 2)) = some true := by decide +kernel

example : (ofText? "call.*").map (holds · (.text "callee")) = some true := by decide +kernel

example : (ofText? "1e3").map (holds · (.number 1000)) = some false := by decide +kernel

end ValueTest
end RpcMetrics.Log
