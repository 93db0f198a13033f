import RpcMetrics.Text.CodeRange

/-!
# Blank characters

Blanks are the characters with the Unicode property White_Space.  The class is wider than the
ASCII one of the core library: it holds the no-break space, the line separators and the spaces
of fixed width, but neither the zero-width space nor the byte order mark.
-/
namespace RpcMetrics.Text

/-- The property White_Space. -/
def blankRanges : CodeRanges :=
  [(0x9, 0xD), (0x20, 0x20), (0x85, 0x85), (0xA0, 0xA0), (0x1680, 0x1680), (0x2000, 0x200A),
   (0x2028, 0x2029), (0x202F, 0x202F), (0x205F, 0x205F), (0x3000, 0x3000)]

def isBlank (c : Char) : Bool := inRanges blankRanges c

/-- The text without the blanks before it. -/
def dropBlanks (text : List Char) : List Char := text.dropWhile isBlank

/-- The text without the blanks after it. -/
def dropBlanksAtEnd (text : List Char) : List Char :=
  (text.reverse.dropWhile isBlank).reverse

/-- Dropping blanks never lengthens a text. -/
theorem length_dropBlanks_le (text : List Char) : (dropBlanks text).length ≤ text.length :=
  (List.dropWhile_sublist _).length_le

end RpcMetrics.Text
