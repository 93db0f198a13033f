import RpcMetrics.Query.Model

/-!
# Scripts

A script says beforehand what is answered to which query set.  Its rules look at the first
sub-query and at the expression, and the first rule that fits decides.  What a rule gives is left
open, so that stores and servers can be scripted alike.
-/
namespace RpcMetrics

/-- What is given for the query sets that fit. -/
structure Rule (α : Type) where
  /-- The metric of the first sub-query, if it matters. -/
  metric : Option String := none
  /-- A dimension of the first sub-query, if it matters. -/
  tag : Option String := none
  /-- The expression, if it matters. -/
  expression : Option String := none
  answer : α

namespace Rule

variable {α : Type}

/-- Whether something holds of a text, if the text matters. -/
def holds (text : Option String) (p : String → Bool) : Bool :=
  match text with
  | none => true
  | some text => p text

/-- Whether the first sub-query, if there is one, has what the rule asks for. -/
def fitsFirst (rule : Rule α) (queries : List Query) : Bool :=
  match queries with
  | [] => rule.metric.isNone && rule.tag.isNone
  | query :: _ =>
    holds rule.metric (query.metric == ·) && holds rule.tag query.groupBy.contains

/-- Whether a query set fits. -/
def fits (rule : Rule α) (set : QuerySet) : Bool :=
  rule.fitsFirst set.queries && holds rule.expression (set.expression == ·)

end Rule

/-- What the first rule that fits gives, if one does. -/
def scripted {α : Type} (rules : List (Rule α)) (set : QuerySet) : Option α :=
  (rules.find? fun rule => rule.fits set).map Rule.answer

end RpcMetrics
