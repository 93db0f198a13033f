import RpcMetrics.Data.Dictionary
import RpcMetrics.Json.Record

/-!
# Rows

The store answers with one row for each series: the values of its dimensions and a number.  In
JSON a row is flat, with the number under `value` beside the dimensions; reading takes every other
member for a dimension.  A dimension called `value` can therefore be written and not be read.
-/
namespace RpcMetrics

/-- A series of a result. -/
structure Row where
  dimensions : Data.Dictionary String
  value : Float

namespace Row

/-- A row with the given dimensions, the last value of each staying. -/
def ofPairs (dimensions : List (String × String)) (value : Float) : Row :=
  ⟨.ofList dimensions, value⟩

def get? (row : Row) (dimension : String) : Option String := row.dimensions.get? dimension

/-- The name of the number. -/
def valueField : String := "value"

/-- A row in JSON: its dimensions in order, and then its number. -/
def toJson (row : Row) : Json :=
  .object (row.dimensions.entries.map (fun entry => (entry.1, .string entry.2))
    ++ [(valueField, .ofFloat row.value)])

def readDimension (member : String × Json) : Option (String × String) :=
  member.2.toText?.map fun text => (member.1, text)

def ofJson? : Json → Option Row
  | .object members => do
    let dimensions ← (members.filter fun member => member.1 != valueField).mapM readDimension
    match members.filter fun member => member.1 == valueField with
    | [(_, value)] => return .ofPairs dimensions (← value.toFloat?)
    | _ => none
  | _ => none

end Row

/-! ### Answers of the store -/

def Row.answerToJson (rows : List Row) : Json := .object [("rows", .array (rows.map Row.toJson))]

/-- Reads an answer of the store: its rows, of which there may be none. -/
def Row.answerOfJson? (json : Json) : Option (List Row) := do
  let record ← json.toRecord? ["rows"] false
  record.defaulted "rows" (Json.toList? Row.ofJson?) []

end RpcMetrics
