import RpcMetrics.Json.Token

/-!
# Texts and keys in TOML

A text stands between quotes, on one line or, between three quotes, on several.  Single quotes
leave everything as it is, and double quotes allow escapes.  A key is a bare word or a text on one
line, and dots join keys to a path.  Each reader takes what it reads from the start of a text and
gives the rest.
-/
namespace RpcMetrics.Toml

/-- A character at the start of a text. -/
def takeChar (c : Char) : List Char → Option (List Char)
  | first :: rest => if first = c then some rest else none
  | [] => none

/-- Whether the character separates parts of a line. -/
def isSpace (c : Char) : Bool := c == ' ' || c == '\t'

/-- The text without the spaces before it. -/
def skipSpaces (text : List Char) : List Char := text.dropWhile isSpace

/-- Whether the character may stand in a text between single quotes, or in a comment. -/
def isPlain (c : Char) : Bool := c == '\t' || decide (0x20 ≤ c.toNat) && c.toNat != 0x7F

/-- The character with a code point. -/
def ofCodePoint? (n : Nat) : Option Char := if n.isValidChar then some (Char.ofNat n) else none

/-- The number of hexadecimal digits. -/
def hexNumber? (digits : List Char) : Option Nat :=
  digits.foldlM (fun n c => (Json.hexDigit? c).map fun digit => n * 16 + digit) 0

/-- The character that a backslash makes of what follows it. -/
def takeEscape : List Char → Option (Char × List Char)
  | 'b' :: rest => some ('\x08', rest)
  | 't' :: rest => some ('\t', rest)
  | 'n' :: rest => some ('\n', rest)
  | 'f' :: rest => some ('\x0c', rest)
  | 'r' :: rest => some ('\r', rest)
  | '"' :: rest => some ('"', rest)
  | '\\' :: rest => some ('\\', rest)
  | 'u' :: rest =>
    if rest.length < 4 then none
    else do return (← ofCodePoint? (← hexNumber? (rest.take 4)), rest.drop 4)
  | 'U' :: rest =>
    if rest.length < 8 then none
    else do return (← ofCodePoint? (← hexNumber? (rest.take 8)), rest.drop 8)
  | _ => none

/-- The end of a line at the start of a text. -/
def takeNewLine : List Char → Option (List Char)
  | '\n' :: rest => some rest
  | '\r' :: '\n' :: rest => some rest
  | _ => none

/-- Passes over spaces and ends of lines, of which there are no more than `fuel`. -/
def skipLines : Nat → List Char → List Char
  | 0, text => text
  | fuel + 1, text =>
    match takeNewLine (skipSpaces text) with
    | some rest => skipLines fuel rest
    | none => skipSpaces text

/-- A text on one line, after its quote. -/
def takeLine (quote : Char) : Nat → List Char → Option (List Char × List Char)
  | 0, _ => none
  | _, [] => none
  | fuel + 1, c :: rest =>
    if c = quote then some ([], rest)
    else if quote = '"' ∧ c = '\\' then do
      let (c, rest) ← takeEscape rest
      let (text, rest) ← takeLine quote fuel rest
      return (c :: text, rest)
    else if isPlain c then do
      let (text, rest) ← takeLine quote fuel rest
      return (c :: text, rest)
    else none

/-- A text on several lines, after its three quotes.  Up to two quotes may stand before the three
that end it, and a backslash at the end of a line joins the next one. -/
def takeLines (quote : Char) : Nat → List Char → Option (List Char × List Char)
  | 0, _ => none
  | _, [] => none
  | fuel + 1, c :: rest =>
    if c = quote then
      match (c :: rest).span (· == quote) with
      | (quotes, rest) =>
        if quotes.length < 3 then do
          let (text, rest) ← takeLines quote fuel rest
          return (quotes ++ text, rest)
        -- the last three end the text, and those before them belong to it
        else if quotes.length ≤ 5 then some (quotes.drop 3, rest)
        else none
    else if quote = '"' ∧ c = '\\' then
      match takeNewLine (skipSpaces rest) with
      | some rest => takeLines quote fuel (skipLines rest.length rest)
      | none => do
        let (c, rest) ← takeEscape rest
        let (text, rest) ← takeLines quote fuel rest
        return (c :: text, rest)
    else
      match takeNewLine (c :: rest) with
      | some rest => do
        let (text, rest) ← takeLines quote fuel rest
        return ('\n' :: text, rest)
      | none =>
        if isPlain c then do
          let (text, rest) ← takeLines quote fuel rest
          return (c :: text, rest)
        else none

/-- A text on several lines without the end of line right after its quotes. -/
def takeBlock (quote : Char) (text : List Char) : Option (List Char × List Char) :=
  let text := (takeNewLine text).getD text
  takeLines quote (text.length + 1) text

/-- A text between quotes of either kind. -/
def takeText : List Char → Option (List Char × List Char)
  | '"' :: '"' :: '"' :: rest => takeBlock '"' rest
  | '\'' :: '\'' :: '\'' :: rest => takeBlock '\'' rest
  | '"' :: rest => takeLine '"' (rest.length + 1) rest
  | '\'' :: rest => takeLine '\'' (rest.length + 1) rest
  | _ => none

/-- Whether the character may stand in a bare key. -/
def isBare (c : Char) : Bool := c.isAlphanum || c == '_' || c == '-'

/-- One part of a key. -/
def takeKeyPart : List Char → Option (String × List Char)
  | '"' :: rest => (takeLine '"' (rest.length + 1) rest).map fun (key, rest) =>
      (String.ofList key, rest)
  | '\'' :: rest => (takeLine '\'' (rest.length + 1) rest).map fun (key, rest) =>
      (String.ofList key, rest)
  | text =>
    let key := text.takeWhile isBare
    if key.isEmpty then none else some (String.ofList key, text.dropWhile isBare)

/-- A path of keys, no longer than `fuel`, with the spaces around its parts. -/
def takePath : Nat → List Char → Option (List String × List Char)
  | 0, _ => none
  | fuel + 1, text => do
    let (key, rest) ← takeKeyPart (skipSpaces text)
    match skipSpaces rest with
    | '.' :: rest => do
      let (keys, rest) ← takePath fuel rest
      return (key :: keys, rest)
    | rest => return ([key], rest)

/-- A comment, if there is one, up to the end of its line. -/
def skipComment : List Char → List Char
  | '#' :: rest => rest.dropWhile isPlain
  | text => text

/-- Passes over spaces, comments and ends of lines, of which there are no more than `fuel`. -/
def skipFiller : Nat → List Char → List Char
  | 0, text => text
  | fuel + 1, text =>
    let text := skipComment (skipSpaces text)
    match takeNewLine text with
    | some rest => skipFiller fuel rest
    | none => text

end RpcMetrics.Toml
