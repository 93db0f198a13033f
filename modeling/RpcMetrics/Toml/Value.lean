import RpcMetrics.Json.Basic
import RpcMetrics.Toml.Moment

/-!
# TOML values

The values of a document, and the JSON values that are made of them.  A moment becomes its text.
A table may stand for a moment as well: one whose first key is `momentKey` does, whatever else it
holds.
-/
namespace RpcMetrics.Toml

/-- A value of a document. -/
inductive Value where
  | text (content : String)
  | integer (n : Int)
  /-- A double. -/
  | double (x : Float)
  | flag (b : Bool)
  | moment (content : Moment)
  | array (items : List Value)
  | table (entries : List (String × Value))

/-- The key under which a table keeps the moment that it stands for. -/
def momentKey : String := "$__toml_private_datetime"

/-- The moment under the key of moments, which has to be kept as a text. -/
def Value.moment? : Value → Option Moment
  | .text content => Moment.ofText? content
  | _ => none

mutual

/-- The JSON value made of a value, unless a moment is out of order. -/
def Value.toJson? : Value → Option Json
  | .text content => some (.string content)
  | .integer n => some (.integer n)
  | .double x => some (.float x)
  | .flag b => some (.bool b)
  | .moment content => some (.string content.text)
  | .array items => (Value.itemsToJson? items).map .array
  | .table [] => some (.object [])
  | .table ((key, value) :: entries) =>
    if key = momentKey then value.moment?.map fun content => .string content.text
    else do
      let first ← value.toJson?
      return .object ((key, first) :: (← Value.entriesToJson? entries))

/-- The items of an array. -/
def Value.itemsToJson? : List Value → Option (List Json)
  | [] => some []
  | item :: items => do return (← item.toJson?) :: (← Value.itemsToJson? items)

/-- The members of an object. -/
def Value.entriesToJson? : List (String × Value) → Option (List (String × Json))
  | [] => some []
  | (key, value) :: entries => do
    return (key, ← value.toJson?) :: (← Value.entriesToJson? entries)

end

end RpcMetrics.Toml
