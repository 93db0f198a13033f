import RpcMetrics.Text.CodeRange

/-!
# Punycode

Punycode writes a text of any characters in letters, digits and hyphens.  The ASCII characters
come first, up to the last hyphen.  After it every other character is a number that says how far
to go on, through all places of the text for one code point after another, until the character
is put in.  How numbers are split into digits depends on the ones before.
-/
namespace RpcMetrics.Text.Punycode

/-- The number that a letter or a digit stands for. -/
def digit? (c : Char) : Option Nat :=
  if 'a' ≤ c ∧ c ≤ 'z' then some (c.toNat - 'a'.toNat)
  else if 'A' ≤ c ∧ c ≤ 'Z' then some (c.toNat - 'A'.toNat)
  else if c.isDigit then some (c.toNat - '0'.toNat + 26)
  else none

/-- A digit below this is the last one of its number. -/
def threshold (position bias : Nat) : Nat := min 26 (max 1 (position - bias))

/-- A number at the start of a text, from a digit on with a position and a weight. -/
def takeNumber (bias : Nat) : Nat → Nat → List Char → Option (Nat × List Char)
  | _, _, [] => none
  | position, weight, c :: rest => do
    let digit ← digit? c
    let limit := threshold position bias
    if digit < limit then return (digit * weight, rest)
    let (n, rest) ← takeNumber bias (position + 36) (weight * (36 - limit)) rest
    return (digit * weight + n, rest)

/-- The bias for numbers of a size. -/
def biasOf (steps size : Nat) : Nat :=
  if 455 < size then biasOf (steps + 36) (size / 35) else steps + 36 * size / (size + 38)
termination_by size
decreasing_by exact Nat.div_lt_self (by omega) (by omega)

/-- The bias after a number that brought a text to so many characters. -/
def adapt (n count : Nat) (first : Bool) : Nat :=
  let size := if first then n / 700 else n / 2
  biasOf 0 (size + size / count)

/-- Puts the characters of numbers, of which there are no more than `fuel`, into a text.  The
last character had the given code point and came before the given place. -/
def putIn (point place bias : Nat) (text : List Char) : Nat → List Char → Option (List Char)
  | _, [] => some text
  | 0, _ => none
  | fuel + 1, digits => do
    let (n, rest) ← takeNumber bias 36 1 digits
    let count := text.length + 1
    let point := point + (place + n) / count
    let target := (place + n) % count
    if point.isValidChar then
      putIn point (target + 1) (adapt n count (place == 0))
        (text.insertIdx target (Char.ofNat point)) fuel rest
    else none

/-- The text that is written so, if there is one. -/
def decode (written : List Char) : Option (List Char) :=
  let digits := (written.reverse.takeWhile (· != '-')).reverse
  let plain := written.take (written.length - digits.length - 1)
  if plain.any fun c => decide (0x80 ≤ c.toNat) then none
  else if plain.isEmpty then putIn 0x80 0 72 [] written.length written
  else putIn 0x80 0 72 plain written.length digits

example : decode "mnchen-3ya".toList = some "münchen".toList := by decide +kernel

example : decode "ls8h".toList = some "💩".toList := by decide +kernel

end RpcMetrics.Text.Punycode
