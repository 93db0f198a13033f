import RpcMetrics.Data.NameSet
import RpcMetrics.Expression.Token

/-!
# Reading expressions

An expression combines sub-queries by sums, products and signs.  It is checked token by token:
the only state is how many parentheses are open, whether an operand comes next, and the names
met so far.  `aliases` gives the names of a well-formed expression.  A fault names the first
place where no expression can go on, or what is missing at the end.
-/
namespace RpcMetrics.Expression

/-- Why a text is no expression. -/
inductive Fault where
  /-- There is nothing but blanks. -/
  | empty
  /-- No token begins at the given rest of the text. -/
  | unexpected (rest : String)
  /-- An operand follows an operand. -/
  | missingOperator
  /-- An operator other than a sign stands where an operand is expected. -/
  | danglingOperator (op : Operator)
  /-- A parenthesis opens after an operand. -/
  | missingOperatorBeforeOpening
  /-- A parenthesis closes that is not open, or closes before an operand. -/
  | unbalancedClosing
  /-- The text ends where an operand is expected. -/
  | incomplete
  /-- The text ends within parentheses. -/
  | unclosed
  deriving DecidableEq, Repr

def Fault.message (expression : String) : Fault → String
  | empty => "expression is empty"
  | unexpected rest =>
    "unexpected input in expression `" ++ expression ++ "` at `" ++ rest ++ "`"
  | missingOperator => "missing operator in expression `" ++ expression ++ "`"
  | danglingOperator op =>
    "dangling operator `" ++ op.sign.toString ++ "` in expression `" ++ expression ++ "`"
  | missingOperatorBeforeOpening =>
    "missing operator before `(` in expression `" ++ expression ++ "`"
  | unbalancedClosing => "unbalanced `)` in expression `" ++ expression ++ "`"
  | incomplete => "expression `" ++ expression ++ "` is incomplete"
  | unclosed => "unclosed `(` in expression `" ++ expression ++ "`"

/-- What is known after some tokens of an expression. -/
structure Progress where
  /-- How many parentheses are open. -/
  depth : Nat
  expectsOperand : Bool
  names : Data.NameSet

/-- Nothing has been read, and an operand comes next. -/
def Progress.start : Progress := ⟨0, true, .empty⟩

/-- The progress after one more token. -/
def Progress.step (p : Progress) : Token → Except Fault Progress
  | .number _ =>
    if p.expectsOperand then .ok { p with expectsOperand := false } else .error .missingOperator
  | .name text =>
    if p.expectsOperand then
      .ok { p with expectsOperand := false, names := p.names.insert (String.ofList text) }
    else .error .missingOperator
  | .operator op =>
    if p.expectsOperand && op != .minus then .error (.danglingOperator op)
    else .ok { p with expectsOperand := true }
  | .opening =>
    if p.expectsOperand then .ok { p with depth := p.depth + 1 }
    else .error .missingOperatorBeforeOpening
  | .closing =>
    if p.expectsOperand || p.depth == 0 then .error .unbalancedClosing
    else .ok { p with depth := p.depth - 1 }

/-- The progress after all tokens of a list, or the fault of the first that does not fit. -/
def Progress.run (p : Progress) (tokens : List Token) : Except Fault Progress :=
  tokens.foldlM Progress.step p

/-- The names of an expression that ends here. -/
def Progress.finish (p : Progress) : Except Fault Data.NameSet :=
  if p.expectsOperand then .error .incomplete
  else if p.depth ≠ 0 then .error .unclosed
  else .ok p.names

/-- The names of a text that is an expression. -/
def scan (text : List Char) : Except Fault Data.NameSet := do
  let text := Text.dropBlanks text
  if text.isEmpty then throw .empty
  let (tokens, remainder) := Token.lex text
  let progress ← Progress.start.run tokens
  if remainder.isEmpty then progress.finish else throw (.unexpected (String.ofList remainder))

/-- The sub-queries that an expression refers to. -/
def aliases (expression : String) : Except Fault Data.NameSet := scan expression.toList

@[simp] theorem run_nil (p : Progress) : p.run [] = .ok p := rfl

@[simp] theorem run_cons (p : Progress) (token : Token) (tokens : List Token) :
    p.run (token :: tokens) = (p.step token).bind fun q => q.run tokens := rfl

/-- Reading a list in two parts is reading it whole. -/
theorem run_append (p : Progress) (first second : List Token) :
    p.run (first ++ second) = (p.run first).bind fun q => q.run second := by
  simp only [Progress.run, List.foldlM_append]
  rfl

end RpcMetrics.Expression
