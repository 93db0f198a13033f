import RpcMetrics.Environment.Basic
import RpcMetrics.Text.Blank

/-!
# Lines of environment files

Each line of an environment file sets a variable.  A line goes on below as long as a quote is open
or its last character is an escape or a lone blank, and a comment after a lone blank is cut off.
Lines that begin with a comment are left out, and so is a line that the file's end cuts short.
-/
namespace RpcMetrics.Environment

/-- What a line is in the middle of. -/
inductive LineState where
  /-- Nothing. -/
  | plain
  | blank
  | escaped
  | literal
  /-- Single quotes are open, and it stands after a backslash. -/
  | literalEscaped
  | quoted
  /-- Double quotes are open, and it stands after a backslash. -/
  | quotedEscaped
  deriving DecidableEq, Repr

namespace LineState

/-- The state after a character outside quotes that is no blank. -/
def afterMark : Char → LineState
  | '\\' => escaped
  | '"' => quoted
  | '\'' => literal
  | _ => plain

/-- The state after a character. -/
def next (c : Char) : LineState → LineState
  | plain =>
    if Text.isBlank c && c != '\n' && c != '\r' then blank else afterMark c
  | blank => afterMark c
  | escaped => plain
  | literal => if c = '\\' then literalEscaped else if c = '\'' then plain else literal
  | literalEscaped => literal
  | quoted => if c = '\\' then quotedEscaped else if c = '"' then plain else quoted
  | quotedEscaped => quoted

/-- The state after a text. -/
def after (state : LineState) (text : List Char) : LineState :=
  text.foldl (fun state c => next c state) state

end LineState

/-- What stands before the comment of a text, if it has one. -/
def beforeComment (state : LineState) : List Char → Option (List Char)
  | [] => none
  | c :: text =>
    if state = .blank ∧ c = '#' then some []
    else (beforeComment (state.next c) text).map (c :: ·)

/-- A text cut after each line feed. -/
def cutLines : List Char → List (List Char)
  | [] => []
  | c :: text =>
    if c = '\n' then [c] :: cutLines text
    else
      match cutLines text with
      | [] => [[c]]
      | line :: lines => (c :: line) :: lines

/-- Puts cut lines together where they go on; `begun` has been read in `state`. -/
def joinLines (begun : List Char) (state : LineState) : List (List Char) → List (List Char)
  | [] => []
  | line :: lines =>
    if (Text.dropBlanks (begun ++ line)).head? = some '#' then joinLines [] .plain lines
    else
      match beforeComment state line with
      | some kept => (begun ++ kept) :: joinLines [] .plain lines
      | none =>
        if state.after line = .plain then (begun ++ line) :: joinLines [] .plain lines
        else joinLines (begun ++ line) (state.after line) lines

/-- The lines of a file. -/
def linesOf (text : String) : List (List Char) := joinLines [] .plain (cutLines text.toList)

/-- An open quote takes the next line in. -/
example : linesOf "A='x\ny' # z\nB=1\n" = ["A='x\ny' ".toList, "B=1\n".toList] := by
  decide +kernel

end RpcMetrics.Environment
