import RpcMetrics.Failure
import RpcMetrics.Json.Printer
import RpcMetrics.Json.Record

/-!
# Filters

A filter is a conjunction of conditions on tags.  Requests spell a condition as a key and a
value: the key is a field, followed by two underscores and an operator unless equality is meant,
and the value is a scalar or a list of scalars, any of which may match.  The operator is what
follows the last two underscores, so fields may hold underscores of their own.
-/
namespace RpcMetrics

/-- How a condition compares a tag with its values. -/
inductive Comparison where
  /-- Equal to one of the values. -/
  | eq
  /-- Equal to none of the values. -/
  | neq
  | gt
  /-- Greater than or equal to the value. -/
  | gte
  | lt
  /-- Less than or equal to the value. -/
  | lte
  /-- With one of the values inside. -/
  | including
  /-- With none of the values inside. -/
  | excluding
  | matching
  /-- Not matching a pattern. -/
  | unmatching
  deriving DecidableEq, Repr

namespace Comparison

/-- The name of a comparison, in keys and in JSON. -/
def name : Comparison → String
  | eq => "eq"
  | neq => "neq"
  | gt => "gt"
  | gte => "gte"
  | lt => "lt"
  | lte => "lte"
  | including => "include"
  | excluding => "exclude"
  | matching => "reg"
  | unmatching => "nreg"

def all : List Comparison :=
  [eq, neq, gt, gte, lt, lte, including, excluding, matching, unmatching]

def ofName? (name : String) : Option Comparison := all.find? fun c => c.name == name

/-- **Names are read back.** -/
theorem ofName?_name (c : Comparison) : ofName? c.name = some c := by cases c <;> decide

end Comparison

/-- A tag compared with values. -/
structure Condition where
  field : String
  op : Comparison
  /-- The values, any of which may match. -/
  values : List String
  deriving DecidableEq, Repr

namespace Condition

/-- The tag has the value. -/
def equal (field value : String) : Condition := ⟨field, .eq, [value]⟩

/-- The tag has another value. -/
def unequal (field value : String) : Condition := ⟨field, .neq, [value]⟩

end Condition

/-- A conjunction of conditions; without any it matches everything. -/
structure Filter where
  /-- The conditions in their order. -/
  conditions : List Condition
  deriving DecidableEq, Repr

namespace Filter

/-- The filter that matches everything. -/
def empty : Filter := ⟨[]⟩

/-- One more condition. -/
def and (filter : Filter) (condition : Condition) : Filter :=
  ⟨filter.conditions ++ [condition]⟩

/-- The conditions of both filters. -/
def merge (filter other : Filter) : Filter := ⟨filter.conditions ++ other.conditions⟩

/-- Whether the filter matches everything for want of conditions. -/
def isEmpty (filter : Filter) : Bool := filter.conditions.isEmpty

/-! ### Filters in requests -/

/-- A condition as requests spell it: a key and a value. -/
abbrev Spec := String × Json

/-- Splits a reversed text at its first two underscores in a row; `suffix` has been passed. -/
def splitReversed (suffix : List Char) : List Char → Option (List Char × List Char)
  | '_' :: '_' :: rest => some (rest.reverse, suffix)
  | c :: rest => splitReversed (c :: suffix) rest
  | [] => none

/-- Splits a key at its last two underscores in a row. -/
def splitKey (key : List Char) : Option (List Char × List Char) := splitReversed [] key.reverse

/-- A field with its comparison, unless the field is empty. -/
def nonEmptyField (key field : String) (op : Comparison) : Except Failure (String × Comparison) :=
  if field.isEmpty then .error (.invalidArgument (.missingField key)) else .ok (field, op)

/-- The field and the comparison of a key. -/
def readKey (key : String) : Except Failure (String × Comparison) :=
  match splitKey key.toList with
  | none => nonEmptyField key key .eq
  | some (field, suffix) =>
    match Comparison.ofName? (String.ofList suffix) with
    | none => .error (.invalidArgument (.unknownOperator key))
    | some op => nonEmptyField key (String.ofList field) op

/-- The text that a scalar is compared by. -/
def scalarText? : Json → Option String
  | .string text => some text
  | .integer n => some (Decimal.writeInt n)
  | .float x => some (Json.layout.write x)
  | .bool value => some (if value then "true" else "false")
  | _ => none

/-- The texts that a value is compared by. -/
def valueTexts? : Json → Option (List String)
  | .array items => items.mapM scalarText?
  | scalar => (scalarText? scalar).map ([·])

/-- The condition of a key and a value. -/
def readSpec (spec : Spec) : Except Failure Condition := do
  let (field, op) ← readKey spec.1
  match valueTexts? spec.2 with
  | some values => return ⟨field, op, values⟩
  | none => throw (.invalidArgument (.compoundValue spec.1))

/-- The filter of keys and values, one condition each. -/
def ofSpecs (specs : List Spec) : Except Failure Filter := return ⟨← specs.mapM readSpec⟩

end Filter

/-! ### Filters in JSON -/

namespace Condition

def fields : List String := ["field", "op", "values"]

def toJson (condition : Condition) : Json :=
  .object [("field", .string condition.field), ("op", .string condition.op.name),
    ("values", .ofTexts condition.values)]

def ofJson? (json : Json) : Option Condition := do
  let record ← json.toRecord? fields false
  return {
    field := ← record.required "field" Json.toText?
    op := ← record.required "op" (Json.toNamed? Comparison.ofName?)
    values := ← record.required "values" Json.toTexts? }

end Condition

namespace Filter

/-- A filter in JSON: the array of its conditions. -/
def toJson (filter : Filter) : Json := .array (filter.conditions.map Condition.toJson)

def ofJson? (json : Json) : Option Filter := (json.toList? Condition.ofJson?).map Filter.mk

end Filter
end RpcMetrics
