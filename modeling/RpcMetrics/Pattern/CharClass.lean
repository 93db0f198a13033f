import RpcMetrics.Text.CodeRange

/-!
# Classes of characters

A class is kept by its ranges in order, with gaps between them, so that classes of the same
characters are equal: ranges that meet are joined as they are added.
-/
namespace RpcMetrics.Pattern

/-- A class of characters. -/
structure CharClass where
  /-- The ranges, in order and with gaps between them. -/
  ranges : Text.CodeRanges
  deriving DecidableEq, Repr

namespace CharClass

/-- The code point after that of a character.  Surrogates are no characters. -/
def following (n : Nat) : Nat := if n = 0xD7FF then 0xE000 else n + 1

/-- The code point before that of a character. -/
def preceding (n : Nat) : Nat := if n = 0xE000 then 0xD7FF else n - 1

/-- Adds a range to ranges that are in order and have gaps between them. -/
def insert (range : Nat × Nat) : Text.CodeRanges → Text.CodeRanges
  | [] => [range]
  | next :: others =>
    if following range.2 < next.1 then range :: next :: others
    else if following next.2 < range.1 then next :: insert range others
    else insert (min range.1 next.1, max range.2 next.2) others

/-- The characters of some ranges. -/
def ofRanges (ranges : Text.CodeRanges) : CharClass := ⟨ranges.foldr insert []⟩

/-- Whether a character is in the class. -/
def holds (chars : CharClass) (c : Char) : Bool := Text.inRanges chars.ranges c

/-- No character. -/
def empty : CharClass := ⟨[]⟩

/-- One character. -/
def single (c : Char) : CharClass := ⟨[(c.toNat, c.toNat)]⟩

/-- The character of a class that holds no other. -/
def only? (chars : CharClass) : Option Char :=
  match chars.ranges with
  | [(first, last)] => if first = last then some (Char.ofNat first) else none
  | _ => none

/-- The last code point. -/
def lastPoint : Nat := 0x10FFFF

/-- The gaps between ranges, from a code point on. -/
def gaps (start : Nat) : Text.CodeRanges → Text.CodeRanges
  | [] => if start ≤ lastPoint then [(start, lastPoint)] else []
  | range :: others =>
    if start < range.1 then (start, preceding range.1) :: gaps (following range.2) others
    else gaps (following range.2) others

/-- All other characters. -/
def complement (chars : CharClass) : CharClass := ⟨gaps 0 chars.ranges⟩

def all : CharClass := empty.complement

/-- The characters of either class. -/
def union (first second : CharClass) : CharClass := ⟨first.ranges.foldr insert second.ranges⟩

/-- The characters of both classes. -/
def intersection (first second : CharClass) : CharClass :=
  (first.complement.union second.complement).complement

/-- The ASCII letters with those that are the same but for their case.  In all scripts the long s
and the sign of the kelvin are among them. -/
def sameLetters (allScripts : Bool) : List (List Char) :=
  (List.range 26).map fun i =>
    let lower := Char.ofNat ('a'.toNat + i)
    let others := if !allScripts then []
      else if lower = 's' then ['\u017F']
      else if lower = 'k' then ['\u212A']
      else []
    lower :: lower.toUpper :: others

/-- The characters of the class and those that are the same ASCII letters. -/
def ignoringCase (allScripts : Bool) (chars : CharClass) : CharClass :=
  let letters := (sameLetters allScripts).filter fun same => same.any chars.holds
  (ofRanges (letters.flatten.map fun c => (c.toNat, c.toNat))).union chars

/-- Ranges that meet become one. -/
example : ofRanges [(0x62, 0x63), (0x61, 0x61), (0x78, 0x7A)] = ⟨[(0x61, 0x63), (0x78, 0x7A)]⟩ := by
  decide +kernel

example : ((single 'b').ignoringCase true).complement.holds 'B' = false := by decide +kernel

/-- What is in one class and not in another. -/
example : (ofRanges [(0x61, 0x7A)]).intersection (single 'k').complement =
    ⟨[(0x61, 0x6A), (0x6C, 0x7A)]⟩ := by
  decide +kernel

end CharClass
end RpcMetrics.Pattern
