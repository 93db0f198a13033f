import RpcMetrics.Toml.Scalar
import RpcMetrics.Toml.Table

/-!
# TOML documents

A document is a row of lines: keys with values, headers, comments and empty lines.  What it holds
is one table.  A document with anything out of order holds nothing at all.
-/
namespace RpcMetrics.Toml

/-- Arrays and inline tables are nested less deep than this, and keys have fewer parts. -/
def depthLimit : Nat := 80

/-- A path of keys, which is not too long. -/
def takeKey (text : List Char) : Option ((List String × String) × List Char) := do
  let (path, rest) ← takePath text.length text
  if path.length < depthLimit then return ((path.dropLast, path.getLast?.getD ""), rest)
  else none

/-- One level deeper, unless that is too deep. -/
def deeper? (depth : Nat) : Option Nat := if depth + 1 < depthLimit then some (depth + 1) else none

mutual

/-- A value at the start of a text, within so many other values. -/
def takeValue (depth : Nat) : Nat → List Char → Option (Value × List Char)
  | 0, _ => none
  | fuel + 1, text =>
    match text with
    | '"' :: _ | '\'' :: _ =>
      (takeText text).map fun (value, rest) => (.text (String.ofList value), rest)
    | '[' :: rest => do
      let (items, rest) ← takeItems (← deeper? depth) fuel rest
      return (.array items, rest)
    | '\x7b' :: rest => do
      let depth ← deeper? depth
      match skipSpaces rest with
      | '\x7d' :: rest => return (.table [], rest)
      | rest => do
        let (table, rest) ← takePairs depth Table.root fuel rest
        return (table.toValue, rest)
    | 't' :: 'r' :: 'u' :: 'e' :: rest => some (.flag true, rest)
    | 'f' :: 'a' :: 'l' :: 's' :: 'e' :: rest => some (.flag false, rest)
    | text => takeNumeric text

/-- The items of an array after its bracket or a comma. -/
def takeItems (depth : Nat) : Nat → List Char → Option (List Value × List Char)
  | 0, _ => none
  | fuel + 1, text =>
    match skipFiller text.length text with
    | ']' :: rest => some ([], rest)
    | text => do
      let (item, rest) ← takeValue depth fuel text
      match skipFiller rest.length rest with
      | ']' :: rest => return ([item], rest)
      | ',' :: rest => do
        let (items, rest) ← takeItems depth fuel rest
        return (item :: items, rest)
      | _ => none

/-- The pairs of an inline table after its brace or a comma, put into the table so far. -/
def takePairs (depth : Nat) (table : Table) : Nat → List Char → Option (Table × List Char)
  | 0, _ => none
  | fuel + 1, text => do
    let ((path, key), rest) ← takeKey text
    let (value, rest) ← takeValue depth fuel (skipSpaces (← takeChar '=' rest))
    let table ← table.put path key value
    match skipSpaces rest with
    | '\x7d' :: rest => return (table, rest)
    | ',' :: rest => takePairs depth table fuel rest
    | _ => none

end

/-- A document as far as it has been read: its tables, and the path of the last header. -/
structure Progress where
  root : Table
  /-- The path of the last header, which lines with keys belong to. -/
  current : List String

/-- The end of a line, after a comment if there is one. -/
def takeLineEnd (text : List Char) : Option (List Char) :=
  match skipComment (skipSpaces text) with
  | [] => some []
  | text => takeNewLine text

/-- A header after its brackets, up to the closing ones. -/
def takeHeader (closing : List Char) (text : List Char) :
    Option ((List String × String) × List Char) := do
  let (key, rest) ← takeKey text
  if rest.take closing.length = closing then return (key, rest.drop closing.length)
  else none

/-- The document after one more line, and the rest of its text. -/
def Progress.line (p : Progress) (text : List Char) : Option (Progress × List Char) :=
  match skipSpaces text with
  | '[' :: '[' :: rest => do
    let ((path, key), rest) ← takeHeader [']', ']'] rest
    let root ← p.root.openListed path key
    return (⟨root, path ++ [key]⟩, ← takeLineEnd rest)
  | '[' :: rest => do
    let ((path, key), rest) ← takeHeader [']'] rest
    let root ← p.root.openTable path key
    return (⟨root, path ++ [key]⟩, ← takeLineEnd rest)
  | text =>
    match takeLineEnd text with
    | some rest => some (p, rest)
    | none => do
      let ((path, key), rest) ← takeKey text
      let (value, rest) ← takeValue 0 (rest.length + 1) (skipSpaces (← takeChar '=' rest))
      let root ← p.root.update false (Table.put path key value) p.current
      return ({ p with root }, ← takeLineEnd rest)

/-- The document after all lines of a text, of which there are no more than `fuel`. -/
def Progress.run (p : Progress) : Nat → List Char → Option Progress
  | _, [] => some p
  | 0, _ => none
  | fuel + 1, text => do
    let (p, rest) ← p.line text
    p.run fuel rest

/-- Reads a document.  A byte order mark before it is passed over. -/
def parse (text : String) : Option Value := do
  let chars := match text.toList with
    | '\uFEFF' :: rest => rest
    | chars => chars
  let p ← Progress.run ⟨.root, []⟩ (chars.length + 1) chars
  return p.root.toValue

end RpcMetrics.Toml
