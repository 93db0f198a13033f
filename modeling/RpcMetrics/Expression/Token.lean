import RpcMetrics.Text.Blank
import RpcMetrics.Text.DecimalDigit

/-!
# Tokens of expressions

An expression is read as numbers, names, the four operators and parentheses, with blanks
anywhere between them.  `Token.next` reads the longest token at the start of a text, and
`Token.lex` reads tokens as long as there are any; it stops at the first place where none
begins and returns the text from there.
-/
namespace RpcMetrics.Expression

/-- The four operators. -/
inductive Operator where
  | plus
  | minus
  | times
  | divide
  deriving DecidableEq, Repr

def Operator.sign : Operator → Char
  | plus => '+'
  | minus => '-'
  | times => '*'
  | divide => '/'

/-- The smallest parts of an expression. -/
inductive Token where
  /-- A number literal as it is written. -/
  | number (text : List Char)
  | name (text : List Char)
  | operator (op : Operator)
  | opening
  | closing
  deriving DecidableEq, Repr

/-- Whether a name may begin with the character. -/
def isNameStart (c : Char) : Bool := c.isAlpha || c == '_'

/-- Whether a name may go on with the character. -/
def isNameChar (c : Char) : Bool := c.isAlphanum || c == '_'

def Token.text : Token → List Char
  | number text => text
  | name text => text
  | operator op => [op.sign]
  | opening => ['(']
  | closing => [')']

/-- The longest number at the start of a text that begins with a digit: its digits, and a point
with the digits after it if there are any. -/
def takeNumber (text : List Char) : List Char × List Char :=
  let whole := text.takeWhile Text.isDecimalDigit
  match text.dropWhile Text.isDecimalDigit with
  | '.' :: digit :: rest =>
    if Text.isDecimalDigit digit then
      (whole ++ '.' :: digit :: rest.takeWhile Text.isDecimalDigit,
        rest.dropWhile Text.isDecimalDigit)
    else (whole, '.' :: digit :: rest)
  | rest => (whole, rest)

/-- The token of a single character. -/
def Token.ofChar? : Char → Option Token
  | '+' => some (operator .plus)
  | '-' => some (operator .minus)
  | '*' => some (operator .times)
  | '/' => some (operator .divide)
  | '(' => some opening
  | ')' => some closing
  | _ => none

/-- The longest token at the start of a text, and the text after it. -/
def Token.next : List Char → Option (Token × List Char)
  | [] => none
  | c :: rest =>
    if Text.isDecimalDigit c then
      let (text, rest) := takeNumber (c :: rest)
      some (number text, rest)
    else if isNameStart c then
      some (name (c :: rest.takeWhile isNameChar), rest.dropWhile isNameChar)
    else (ofChar? c).map fun token => (token, rest)

/-- A number takes its first digit at least. -/
theorem length_takeNumber_lt {c : Char} {rest : List Char} (h : Text.isDecimalDigit c = true) :
    (takeNumber (c :: rest)).2.length < (c :: rest).length := by
  have hshorter : ((c :: rest).dropWhile Text.isDecimalDigit).length < (c :: rest).length := by
    have := (List.dropWhile_sublist (l := rest) Text.isDecimalDigit).length_le
    rw [List.dropWhile_cons_of_pos h, List.length_cons]
    omega
  rw [takeNumber]
  split
  case h_1 d more heq =>
    rw [heq] at hshorter
    split
    · have := (List.dropWhile_sublist (l := more) Text.isDecimalDigit).length_le
      simp only [List.length_cons] at hshorter ⊢
      omega
    · exact hshorter
  case h_2 => exact hshorter

/-- **Every token takes a character at least.** -/
theorem length_next_lt {text rest : List Char} {token : Token}
    (h : Token.next text = some (token, rest)) : rest.length < text.length := by
  cases text with
  | nil => simp [Token.next] at h
  | cons c tail =>
    rw [Token.next] at h
    split at h
    case isTrue hdigit =>
      have : (takeNumber (c :: tail)).2.length < (c :: tail).length := length_takeNumber_lt hdigit
      simp_all
    case isFalse =>
      split at h
      · have := (List.dropWhile_sublist (l := tail) isNameChar).length_le
        simp only [Option.some.injEq, Prod.mk.injEq] at h
        rw [← h.2, List.length_cons]
        omega
      · obtain ⟨_, _, heq⟩ := Option.map_eq_some_iff.1 h
        simp only [Prod.mk.injEq] at heq
        simp [heq.2]

/-- The tokens of a text without blanks before it, and the text from the first place where no
token begins. -/
def Token.lex (text : List Char) : List Token × List Char :=
  match h : Token.next text with
  | none => ([], text)
  | some (token, rest) =>
    have := length_next_lt h
    let (tokens, remainder) := Token.lex (Text.dropBlanks rest)
    (token :: tokens, remainder)
termination_by text.length
decreasing_by
  have := Text.length_dropBlanks_le rest
  omega

end RpcMetrics.Expression
