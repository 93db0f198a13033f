import Mathlib
import RpcMetrics.Decimal.Integer
import RpcMetrics.Expression.Scan
import RpcMetrics.Proofs.DraftChecks

/-! # The value of an expression

The check of an expression asks only whether operands and operators take turns and
parentheses match.  What the store makes of an expression is more: products bind
before sums, both from the left, and a sign before either (`Formula`).

A formula is read from the same tokens, one by one (`Reading.step`).  What is kept
of the tokens before is what they do to the operand that comes next: into what
product it goes, and into what sum that product (`Frame`), for each parenthesis
that is open.

**Whatever is checked can be read** (`ofText?_isSome`): reading gets as far as
the check does, token by token (`Agrees.step`).  The value of a formula is a
fraction, computed exactly; a name without a value has none, and neither has a
quotient by zero (`Formula.value?`).
-/
namespace RpcMetrics
namespace Expression

/-! ### Formulas -/

/-- An expression as its operators bind. -/
inductive Formula where
  /-- A number as it is written. -/
  | number (text : List Char)
  | name (text : String)
  /-- A minus sign before an operand. -/
  | negated (operand : Formula)
  /-- An operator between operands. -/
  | joined (op : Operator) (left right : Formula)
  deriving DecidableEq

/-- The result of an operator. -/
def Operator.apply? : Operator → ℚ → ℚ → Option ℚ
  | plus, x, y => some (x + y)
  | minus, x, y => some (x - y)
  | times, x, y => some (x * y)
  | divide, x, y => if y = 0 then none else some (x / y)

namespace Formula

/-- The value of a number that is written in ASCII digits. -/
def numberValue? (text : List Char) : Option ℚ :=
  match text.dropWhile (· != '.') with
  | [] => (Decimal.readDigits text).map fun n => (n : ℚ)
  | _ :: fraction => do
    let whole ← Decimal.readDigits (text.takeWhile (· != '.'))
    let parts ← Decimal.readDigits fraction
    return whole + parts / 10 ^ fraction.length

/-- The value of a formula, if the names in it have one and nothing is divided by
zero. -/
def value? (named : String → Option ℚ) : Formula → Option ℚ
  | number text => numberValue? text
  | name text => named text
  | negated operand => (operand.value? named).map fun x => -x
  | joined op left right => do op.apply? (← left.value? named) (← right.value? named)

end Formula

/-! ### Reading formulas -/

/-- What the tokens before do to the operand that comes next. -/
structure Frame where
  /-- The sum that a product ends up in. -/
  sum : Formula → Formula
  /-- The product that an operand ends up in. -/
  product : Formula → Formula

/-- Where reading stands within the innermost parentheses. -/
inductive Place where
  | before (frame : Frame)
  /-- A product may go on, or end up in its sum. -/
  | after (sum : Formula → Formula) (product : Formula)

/-- How far a formula has been read. -/
structure Reading where
  /-- What stands before each open parenthesis, the innermost first. -/
  outer : List Frame
  place : Place

/-- Nothing stands before the operand that comes next. -/
def Frame.empty : Frame := ⟨id, id⟩

/-- An operand has been read. -/
def Frame.take (frame : Frame) (operand : Formula) : Place :=
  .after frame.sum (frame.product operand)

/-- An operator has been read after a product. -/
def Frame.ofOperator (sum : Formula → Formula) (product : Formula) : Operator → Frame
  | .plus => ⟨.joined .plus (sum product), id⟩
  | .minus => ⟨.joined .minus (sum product), id⟩
  | .times => ⟨sum, .joined .times product⟩
  | .divide => ⟨sum, .joined .divide product⟩

namespace Reading

/-- Nothing has been read. -/
def start : Reading := ⟨[], .before .empty⟩

/-- Reads one more token. -/
def step : Reading → Token → Option Reading
  | ⟨outer, .before frame⟩, .number text => some ⟨outer, frame.take (.number text)⟩
  | ⟨outer, .before frame⟩, .name text => some ⟨outer, frame.take (.name (String.ofList text))⟩
  | ⟨outer, .before frame⟩, .operator .minus =>
    some ⟨outer, .before ⟨frame.sum, fun operand => frame.product (.negated operand)⟩⟩
  | ⟨outer, .before frame⟩, .opening => some ⟨frame :: outer, .before .empty⟩
  | ⟨outer, .after sum product⟩, .operator op =>
    some ⟨outer, .before (.ofOperator sum product op)⟩
  | ⟨frame :: outer, .after sum product⟩, .closing => some ⟨outer, frame.take (sum product)⟩
  | _, _ => none

def run (reading : Reading) (tokens : List Token) : Option Reading :=
  tokens.foldlM step reading

/-- The formula that ends here. -/
def finish : Reading → Option Formula
  | ⟨[], .after sum product⟩ => some (sum product)
  | _ => none

end Reading

/-- The formula that a text is read as. -/
def Formula.ofText? (text : String) : Option Formula :=
  let (tokens, remainder) := Token.lex (Text.dropBlanks text.toList)
  if remainder.isEmpty then (Reading.start.run tokens).bind Reading.finish else none

/-! ### Reading and checking -/

/-- Whether an operand comes next. -/
def Place.expectsOperand : Place → Bool
  | before _ => true
  | after _ _ => false

/-- A check and a reading have come equally far. -/
structure Agrees (progress : Progress) (reading : Reading) : Prop where
  depth : progress.depth = reading.outer.length
  expectsOperand : progress.expectsOperand = reading.place.expectsOperand

/-- **One more token is read iff it passes the check**, and both have then come
equally far. -/
theorem Agrees.step {progress : Progress} {reading : Reading} (h : Agrees progress reading)
    (token : Token) : Option.Rel Agrees (progress.step token).toOption (reading.step token) := by
  obtain ⟨depth, expects, names⟩ := progress
  obtain ⟨outer, place⟩ := reading
  obtain ⟨hdepth, hexpects⟩ := h
  cases place with
  | before frame =>
    obtain rfl : expects = true := hexpects
    cases token with
    | number text => exact .some ⟨hdepth, rfl⟩
    | name text => exact .some ⟨hdepth, rfl⟩
    | opening => exact .some ⟨congrArg (· + 1) hdepth, rfl⟩
    | closing => exact .none
    | operator op =>
      cases op with
      | minus => exact .some ⟨hdepth, rfl⟩
      | plus | times | divide => exact .none
  | after sum product =>
    obtain rfl : expects = false := hexpects
    cases token with
    | number text => exact .none
    | name text => exact .none
    | opening => exact .none
    | operator op => exact .some ⟨hdepth, rfl⟩
    | closing =>
      cases outer with
      | nil =>
        obtain rfl : depth = 0 := hdepth
        exact .none
      | cons frame outer =>
        obtain rfl : depth = outer.length + 1 := hdepth
        exact .some ⟨rfl, rfl⟩

/-- Either both have failed, or they have come equally far. -/
theorem agrees_cases {checked : Except Fault Progress} {read : Option Reading}
    (h : Option.Rel Agrees checked.toOption read) :
    (∃ fault, checked = .error fault ∧ read = none) ∨
      ∃ progress reading, checked = .ok progress ∧ read = some reading ∧
        Agrees progress reading := by
  cases checked with
  | error fault =>
    cases h
    exact Or.inl ⟨fault, rfl, rfl⟩
  | ok progress =>
    cases h with
    | some hagrees => exact Or.inr ⟨progress, _, rfl, rfl, hagrees⟩

theorem Agrees.run {progress : Progress} {reading : Reading} (h : Agrees progress reading)
    (tokens : List Token) :
    Option.Rel Agrees (progress.run tokens).toOption (reading.run tokens) := by
  induction tokens generalizing progress reading with
  | nil => exact .some h
  | cons token tokens ih =>
    rw [run_cons, Reading.run, List.foldlM_cons]
    rcases agrees_cases (h.step token) with ⟨fault, hchecked, hread⟩ |
      ⟨checked, read, hchecked, hread, hnext⟩
    · rw [hchecked, hread]
      exact .none
    · rw [hchecked, hread]
      exact ih hnext

theorem Agrees.finish {progress : Progress} {reading : Reading} (h : Agrees progress reading) :
    progress.finish.toOption.isSome = reading.finish.isSome := by
  obtain ⟨depth, expects, names⟩ := progress
  obtain ⟨outer, place⟩ := reading
  obtain ⟨rfl, rfl⟩ := h
  cases place with
  | before frame => cases outer <;> rfl
  | after sum product => cases outer <;> rfl

theorem finish_run_isSome (tokens : List Token) :
    ((Reading.start.run tokens).bind Reading.finish).isSome =
      ((Progress.start.run tokens).bind Progress.finish).toOption.isSome := by
  have hstart : Agrees .start .start := ⟨rfl, rfl⟩
  rcases agrees_cases (hstart.run tokens) with ⟨fault, hchecked, hread⟩ |
    ⟨progress, reading, hchecked, hread, hagrees⟩
  · rw [hchecked, hread]
    rfl
  · rw [hchecked, hread]
    exact hagrees.finish.symm

/-- **A text is read as a formula iff it passes the check.** -/
theorem ofText?_isSome (text : String) :
    (Formula.ofText? text).isSome = (aliases text).toOption.isSome := by
  unfold Formula.ofText? aliases scan
  generalize Text.dropBlanks text.toList = letters
  cases letters with
  | nil => cbv
  | cons c letters =>
    simp only [List.isEmpty_cons, Bool.false_eq_true, if_false]
    obtain ⟨tokens, remainder⟩ := Token.lex (c :: letters)
    cases remainder with
    | nil => exact finish_run_isSome tokens
    | cons d remainder => cases Progress.start.run tokens <;> rfl

example : Formula.ofText? "a - b * -2 - c" =
    some (.joined .minus (.joined .minus (.name "a")
      (.joined .times (.name "b") (.negated (.number ['2'])))) (.name "c")) := by
  cbv

end Expression

/-- The expression of a query set that fits together is that of a formula. -/
theorem QuerySet.Sound.exists_formula {set : QuerySet} (h : set.Sound) :
    ∃ formula, Expression.Formula.ofText? set.expression = some formula := by
  obtain ⟨names, hnames, -⟩ := h.expression_resolves
  rw [← Option.isSome_iff_exists, Expression.ofText?_isSome, hnames]
  rfl

end RpcMetrics
