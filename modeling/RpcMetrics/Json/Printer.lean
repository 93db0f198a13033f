import RpcMetrics.Json.Token

/-!
# Writing JSON

The compact form has no spaces and is the row of the value's tokens.  The pretty form puts every
item on a line of its own.  In texts only quotes, backslashes and control characters are escaped.
-/
namespace RpcMetrics.Json

/-- A hexadecimal number of four digits for a character below 256. -/
def codeEscape (c : Char) : List Char :=
  ['\\', 'u', '0', '0', Nat.digitChar (c.toNat / 16), Nat.digitChar (c.toNat % 16)]

/-- The escape of a character in a text, itself if it needs none. -/
def escape (c : Char) : List Char :=
  match c with
  | '"' => ['\\', '"']
  | '\\' => ['\\', '\\']
  | '\x08' => ['\\', 'b']
  | '\x0c' => ['\\', 'f']
  | '\n' => ['\\', 'n']
  | '\r' => ['\\', 'r']
  | '\t' => ['\\', 't']
  | c => if c.toNat < 0x20 then codeEscape c else [c]

/-- A text between quotes. -/
def quote (text : String) : List Char := '"' :: text.toList.flatMap escape ++ ['"']

/-- A scalar other than a text.  What is unreadable cannot be written and stands as null. -/
def scalarText : Json → List Char
  | .bool true => "true".toList
  | .bool false => "false".toList
  | .integer n => (Decimal.writeInt n).toList
  | .float x => (layout.write x).toList
  | _ => "null".toList

/-- The written form of a token. -/
def Token.write : Token → List Char
  | openArray => ['[']
  | closeArray => [']']
  | openObject => ['\x7b']
  | closeObject => ['\x7d']
  | comma => [',']
  | colon => [':']
  | text value => quote (value.getD "")
  | scalar value => scalarText value

mutual

/-- The tokens of a value. -/
def tokens : Json → List Token
  | .string text => [.text (some text)]
  | .array [] => [.openArray, .closeArray]
  | .array (item :: items) => .openArray :: item.tokens ++ itemTokens items
  | .object [] => [.openObject, .closeObject]
  | .object ((name, value) :: members) =>
    .openObject :: .text (some name) :: .colon :: value.tokens ++ memberTokens members
  | scalar => [.scalar scalar]

/-- The tokens of further items and of the end of their array. -/
def itemTokens : List Json → List Token
  | [] => [.closeArray]
  | item :: items => .comma :: item.tokens ++ itemTokens items

/-- The tokens of further members and of the end of their object. -/
def memberTokens : List (String × Json) → List Token
  | [] => [.closeObject]
  | (name, value) :: members =>
    .comma :: .text (some name) :: .colon :: value.tokens ++ memberTokens members

end

/-- The compact form of a value. -/
def write (value : Json) : String := String.ofList (value.tokens.flatMap Token.write)

/-- A new line at the depth of so many containers. -/
def newLine (depth : Nat) : List Char := '\n' :: List.replicate (2 * depth) ' '

mutual

/-- The pretty form of a value within so many containers. -/
def prettyAt (depth : Nat) : Json → List Char
  | .string text => quote text
  | .array [] => ['[', ']']
  | .array (item :: items) =>
    '[' :: newLine (depth + 1) ++ item.prettyAt (depth + 1) ++ prettyItems depth items
  | .object [] => ['\x7b', '\x7d']
  | .object ((name, value) :: members) =>
    '\x7b' :: newLine (depth + 1) ++ quote name ++ ':' :: ' ' :: value.prettyAt (depth + 1)
      ++ prettyMembers depth members
  | scalar => scalarText scalar

/-- The pretty form of further items and of the end of their array. -/
def prettyItems (depth : Nat) : List Json → List Char
  | [] => newLine depth ++ [']']
  | item :: items =>
    ',' :: newLine (depth + 1) ++ item.prettyAt (depth + 1) ++ prettyItems depth items

/-- The pretty form of further members and of the end of their object. -/
def prettyMembers (depth : Nat) : List (String × Json) → List Char
  | [] => newLine depth ++ ['\x7d']
  | (name, value) :: members =>
    ',' :: newLine (depth + 1) ++ quote name ++ ':' :: ' ' :: value.prettyAt (depth + 1)
      ++ prettyMembers depth members

end

/-- The pretty form of a value: one item a line, two spaces for each container around it. -/
def pretty (value : Json) : String := String.ofList (value.prettyAt 0)

end RpcMetrics.Json
