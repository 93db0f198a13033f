import RpcMetrics.Log.Directive

/-!
# Log filters

A filter is made of directives.  Of the directives about an event wherever it happens, the most
particular one decides: the one with the longest target, then one with a field, and of those that
are about the same the last one.  An event is let through as well if a span around it has a
directive with its level.
-/
namespace RpcMetrics.Log

/-- Directives, in the order in which they are given. -/
structure Filter where
  directives : List Directive
  deriving DecidableEq, Repr

namespace Filter

/-- The texts between commas. -/
def pieces (text : String) : List String :=
  ((text.toList.splitOn ',').filter fun piece => !piece.isEmpty).map String.ofList

/-- Reads directives, if all are in order. -/
def readAll (text : String) : Option Filter := do return ⟨← (pieces text).mapM Directive.read⟩

/-- Reads the directives that are in order. -/
def readSome (text : String) : Filter := ⟨(pieces text).filterMap Directive.read⟩

/-! ### Events wherever they happen -/

/-- The name of the field of a directive. -/
def fieldName (directive : Directive) : Option String := directive.field.map FieldTest.name

/-- Whether the second of two directives about an event decides rather than the first. -/
def yields (first second : Directive) : Bool :=
  if first.target.length = second.target.length then
    match fieldName first, fieldName second with
    | none, _ => true
    | some _, none => false
    | some first, some second => decide (first ≤ second)
  else decide (first.target.length < second.target.length)

/-- The directive that decides about an event, if there is one. -/
def deciding? (filter : Filter) (event : Event) : Option Directive :=
  match filter.directives.filter fun directive => directive.coversEvent event with
  | [] => none
  | first :: others =>
    some (others.foldl (fun best next => if yields best next then next else best) first)

/-- Whether an event is let through wherever it happens. -/
def letsAnywhere (filter : Filter) (event : Event) : Bool :=
  (filter.deciding? event).any fun directive => decide (event.level.rank ≤ directive.threshold)

/-! ### Events in spans -/

/-- The directives without those that a later one replaces. -/
def latest : List Directive → List Directive
  | [] => []
  | directive :: others =>
    if others.any directive.replaces then latest others else directive :: latest others

/-- The highest threshold of some directives. -/
def highest (directives : List Directive) : Threshold :=
  (directives.map Directive.threshold).foldl max 0

/-- How far anything may be let through: all the way if values are tested, which are not known
beforehand, and else as far as the directives say. -/
def reach (filter : Filter) : Threshold :=
  if filter.directives.any fun directive => directive.field.any fun test => test.value.isSome then
    Directive.everything
  else highest filter.directives

/-- What is let through in a span.  A span that is itself out of reach lets nothing through. -/
def thresholdIn (filter : Filter) (span : Span) : Threshold :=
  if span.level.rank ≤ filter.reach then
    highest ((latest filter.directives).filter fun directive =>
      directive.coversSpan span && directive.fitsSpan span)
  else 0

/-- Whether an event that happens in spans is let through. -/
def lets (filter : Filter) (event : Event) (spans : List Span) : Bool :=
  filter.letsAnywhere event
    || spans.any fun span => decide (event.level.rank ≤ filter.thresholdIn span)

/-- The longest target decides, wherever it stands. -/
example : (readAll "apm_metrics=Debug,warn,x").map (fun filter =>
    filter.deciding? ⟨.info, .metrics, "", []⟩)
    = some (some ⟨"apm_metrics", none, none, 4⟩) := by decide +kernel

end Filter
end RpcMetrics.Log
