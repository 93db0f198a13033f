import RpcMetrics.Environment.Line
import RpcMetrics.Text.LetterOrDigit

/-!
# Environment files

A line names a variable and gives it a value.  Values are plain, in single quotes, which take
everything as it stands, or in double quotes; these may follow each other without a blank.  Outside
single quotes a backslash escapes some characters, and a dollar sign stands before the name of a
variable whose value is put in.  A name without braces ends at the first character that is no
letter or digit, and that character is never read as a mark.  Reading stops at the first line that
is out of order; what came before it counts.
-/
namespace RpcMetrics.Environment

/-- Whether the character may stand in the name of a variable. -/
def isNameChar (c : Char) : Bool := c.isAlphanum || c == '_' || c == '.'

/-- The name that a text begins with, and what follows it. -/
def takeName (text : List Char) : Option (String × List Char) :=
  match text with
  | [] => none
  | c :: _ =>
    if c.isAlpha || c == '_' then
      some (String.ofList (text.takeWhile isNameChar), text.dropWhile isNameChar)
    else none

/-- The name before the equals sign that a text begins with, and what follows the sign.  The word
`export` may stand before the name. -/
def takeTarget (text : List Char) : Option (String × List Char) := do
  let (name, rest) ← takeName text
  match Text.dropBlanks rest with
  | '=' :: rest => return (name, rest)
  | rest =>
    if name != "export" then none
    let (name, rest) ← takeName rest
    match Text.dropBlanks rest with
    | '=' :: rest => return (name, rest)
    | _ => none

/-! ### Values -/

/-- What a value is in the middle of. -/
inductive ValueState where
  /-- Text in double quotes or outside quotes. -/
  | text (quoted : Bool)
  /-- The character after a backslash. -/
  | escape (quoted : Bool)
  | literal
  | name (quoted : Bool) (letters : List Char)
  /-- The name of a variable in braces. -/
  | braced (quoted : Bool) (letters : List Char)
  | ended

/-- The character that stands escaped. -/
def unescape (c : Char) : Option Char :=
  if c = 'n' then some '\n' else if "\\'\"$ ".toList.contains c then some c else none

/-- The value of a variable, empty if it is not set. -/
def valueOf (environment : Environment) (letters : List Char) : List Char :=
  ((environment.get? (String.ofList letters)).getD "").toList

/-- The value that ends in a state, if it may end there. -/
def endValue (environment : Environment) : ValueState → Option (List Char)
  | .text false | .escape false | .ended => some []
  | .name false letters => some (valueOf environment letters)
  | _ => none

/-- Reads the rest of a value from a state on. -/
def readValue (environment : Environment) (state : ValueState) :
    List Char → Option (List Char)
  | [] => endValue environment state
  | c :: rest =>
    match state with
    | .ended =>
      -- only a comment may follow a value that has ended
      if c = ' ' ∨ c = '\t' then readValue environment .ended rest
      else if c = '#' then some [] else none
    | .escape quoted => do
      let c ← unescape c
      return c :: (← readValue environment (.text quoted) rest)
    | .literal =>
      if c = '\'' then readValue environment (.text false) rest
      else (readValue environment .literal rest).map (c :: ·)
    | .name quoted letters =>
      if Text.isLetterOrDigit c then readValue environment (.name quoted (letters ++ [c])) rest
      else if c = '\x7b' ∧ letters.isEmpty then readValue environment (.braced quoted []) rest
      -- a sign within a name ends it and begins another
      else if c = '$' then
        (readValue environment (.name quoted []) rest).map (valueOf environment letters ++ ·)
      else
        (readValue environment (.text quoted) rest).map (valueOf environment letters ++ c :: ·)
    | .braced quoted letters =>
      if c = '\x7d' then
        (readValue environment (.text quoted) rest).map (valueOf environment letters ++ ·)
      else readValue environment (.braced quoted (letters ++ [c])) rest
    | .text quoted =>
      if c = '$' then readValue environment (.name quoted []) rest
      else if c = '"' then readValue environment (.text (!quoted)) rest
      else if c = '\\' then readValue environment (.escape quoted) rest
      -- single quotes and blanks are text between double quotes
      else if quoted then (readValue environment (.text true) rest).map (c :: ·)
      else if c = '\'' then readValue environment .literal rest
      else if c = ' ' ∨ c = '\t' then readValue environment .ended rest
      else (readValue environment (.text false) rest).map (c :: ·)

/-! ### Lines -/

/-- What a line does. -/
inductive Line where
  /-- Nothing. -/
  | empty
  /-- It gives a variable a value. -/
  | assignment (name value : String)
  /-- It is out of order. -/
  | fault
  deriving DecidableEq, Repr

/-- Reads the assignment of a line. -/
def readAssignment (environment : Environment) (text : List Char) : Option (String × String) := do
  let (name, rest) ← takeTarget text
  match Text.dropBlanks rest with
  | [] | '#' :: _ => return (name, "")
  | rest => return (name, String.ofList (← readValue environment (.text false) rest))

def readLine (environment : Environment) (line : List Char) : Line :=
  match Text.dropBlanks (Text.dropBlanksAtEnd line) with
  | [] | '#' :: _ => .empty
  | text =>
    match readAssignment environment text with
    | some (name, value) => .assignment name value
    | none => .fault

/-- Reads lines one after the other, up to the first that is out of order. -/
def loadLines (environment : Environment) : List (List Char) → Environment
  | [] => environment
  | line :: lines =>
    match readLine environment line with
    | .empty => loadLines environment lines
    | .assignment name value => loadLines (environment.define name value) lines
    | .fault => environment

/-- The environment with the variables of a file.  A byte order mark is no part of the file. -/
def load (environment : Environment) (file : String) : Environment :=
  match file.toList with
  | '\uFEFF' :: text => loadLines environment (linesOf (String.ofList text))
  | _ => loadLines environment (linesOf file)

/-- Lines up to the first that is out of order. -/
example : (load .empty "export A = 1 # one\nB=\"$A$A;\"\nC='\n$A'\nA=2\nx\nD=4\n").entries =
    [("A", "1"), ("B", "11;"), ("C", "\n$A")] := by decide +kernel

end RpcMetrics.Environment
