import RpcMetrics.Json.Number

/-!
# Tokens of JSON

A JSON text is a row of marks, texts and other scalars with spaces between them.  A text is read
as pieces, characters and UTF-16 units given by number, which `joinPieces` puts together.  Half a
surrogate pair leaves the text without a value, but well-formed.
-/
namespace RpcMetrics.Json

/-- The smallest parts of a JSON text. -/
inductive Token where
  | openArray
  | closeArray
  | openObject
  | closeObject
  | comma
  | colon
  /-- A text, with its value if it has one. -/
  | text (value : Option String)
  /-- A number, a truth value or null. -/
  | scalar (value : Json)

/-- A part of a written text. -/
inductive Piece where
  | char (c : Char)
  /-- A UTF-16 unit given by its number. -/
  | codeUnit (n : Nat)
  deriving DecidableEq, Repr

/-- Whether a unit begins a surrogate pair. -/
def isHighSurrogate (n : Nat) : Bool := decide (0xD800 ≤ n) && decide (n < 0xDC00)

/-- Whether a unit ends a surrogate pair. -/
def isLowSurrogate (n : Nat) : Bool := decide (0xDC00 ≤ n) && decide (n < 0xE000)

/-- The characters that pieces spell, if no surrogate stands alone. -/
def joinPieces : List Piece → Option (List Char)
  | [] => some []
  | .char c :: rest => (joinPieces rest).map (c :: ·)
  | .codeUnit high :: .codeUnit low :: rest =>
    if isHighSurrogate high then
      if isLowSurrogate low then
        (joinPieces rest).map
          (Char.ofNat (0x10000 + (high - 0xD800) * 0x400 + (low - 0xDC00)) :: ·)
      else none
    else if isLowSurrogate high then none
    else (joinPieces (.codeUnit low :: rest)).map (Char.ofNat high :: ·)
  | .codeUnit n :: rest =>
    if isHighSurrogate n || isLowSurrogate n then none
    else (joinPieces rest).map (Char.ofNat n :: ·)

/-- The value of a hexadecimal digit. -/
def hexDigit? (c : Char) : Option Nat :=
  if c.isDigit then some (c.toNat - '0'.toNat)
  else if 'a' ≤ c ∧ c ≤ 'f' then some (c.toNat - 'a'.toNat + 10)
  else if 'A' ≤ c ∧ c ≤ 'F' then some (c.toNat - 'A'.toNat + 10)
  else none

/-- The number of four hexadecimal digits. -/
def hexNumber? (a b c d : Char) : Option Nat := do
  return (((← hexDigit? a) * 16 + (← hexDigit? b)) * 16 + (← hexDigit? c)) * 16 + (← hexDigit? d)

/-- The character that a backslash makes of a letter or mark. -/
def unescape? : Char → Option Char
  | '"' => some '"'
  | '\\' => some '\\'
  | '/' => some '/'
  | 'b' => some '\x08'
  | 'f' => some '\x0c'
  | 'n' => some '\n'
  | 'r' => some '\r'
  | 't' => some '\t'
  | _ => none

/-- The pieces of a text up to its closing quote, and what comes after the quote. -/
def takePieces : List Char → Option (List Piece × List Char)
  | [] => none
  | '"' :: rest => some ([], rest)
  | '\\' :: 'u' :: a :: b :: c :: d :: rest => do
    let n ← hexNumber? a b c d
    let (pieces, rest) ← takePieces rest
    return (.codeUnit n :: pieces, rest)
  | '\\' :: mark :: rest => do
    let c ← unescape? mark
    let (pieces, rest) ← takePieces rest
    return (.char c :: pieces, rest)
  | c :: rest =>
    if c.toNat < 0x20 then none
    else do
      let (pieces, rest) ← takePieces rest
      return (.char c :: pieces, rest)

/-- Whether JSON passes over the character between tokens. -/
def isSpace (c : Char) : Bool := c == ' ' || c == '\t' || c == '\n' || c == '\r'

/-- The token at the start of a text, and the text after it. -/
def Token.next : List Char → Option (Token × List Char)
  | '[' :: rest => some (openArray, rest)
  | ']' :: rest => some (closeArray, rest)
  | '\x7b' :: rest => some (openObject, rest)
  | '\x7d' :: rest => some (closeObject, rest)
  | ',' :: rest => some (comma, rest)
  | ':' :: rest => some (colon, rest)
  | '"' :: rest =>
    (takePieces rest).map fun (pieces, rest) =>
      (text ((joinPieces pieces).map String.ofList), rest)
  | 'n' :: 'u' :: 'l' :: 'l' :: rest => some (scalar .null, rest)
  | 't' :: 'r' :: 'u' :: 'e' :: rest => some (scalar (.bool true), rest)
  | 'f' :: 'a' :: 'l' :: 's' :: 'e' :: rest => some (scalar (.bool false), rest)
  | rest => (takeNumeral rest).map fun (numeral, rest) => (scalar numeral.value, rest)

/-- The tokens of a text, of which there are no more than `fuel`. -/
def Token.lexUpTo : Nat → List Char → Option (List Token)
  | 0, chars => if chars.isEmpty then some [] else none
  | fuel + 1, chars =>
    match chars.dropWhile isSpace with
    | [] => some []
    | first :: chars => do
      let (token, rest) ← Token.next (first :: chars)
      let tokens ← Token.lexUpTo fuel rest
      return token :: tokens

/-- The tokens of a text.  Each takes a character at least. -/
def Token.lex (chars : List Char) : Option (List Token) := Token.lexUpTo chars.length chars

end RpcMetrics.Json
