import RpcMetrics.Http.Status
import RpcMetrics.Http.Url
import RpcMetrics.Json.Parser
import RpcMetrics.Query.Codec
import RpcMetrics.Run
import RpcMetrics.Settings.Basic

/-!
# Exchanges with the store

A query set is posted as JSON to one of two endpoints, according to whether it asks for one
result or for a series.  A response without success is a failure of the store, in the words of
the response.  A response with success has to hold rows: one row that cannot be read spoils the
answer.  How requests and responses travel is left to a wire.
-/
namespace RpcMetrics.Http

/-- A request for the store. -/
structure Request where
  url : Url
  /-- What is asked to be done with the body. -/
  method : String
  contentType : String
  body : String
  deriving DecidableEq, Repr

/-- A response of the store. -/
structure Response where
  status : Nat
  body : String
  deriving DecidableEq, Repr

/-- A wire takes requests to the store and gives its response, if there is one. -/
abbrev Wire := Request → Option Response

/-- A text without slashes at its end. -/
def trimSlashes (text : String) : String :=
  String.ofList (text.toList.reverse.dropWhile (· == '/')).reverse

/-- The address that a query set is posted to. -/
def endpoint (settings : StoreSettings) (set : QuerySet) : String :=
  trimSlashes settings.url ++ "/query/" ++ (if set.instant then "instant" else "range")

/-- The request of a query set, if the settings give an address. -/
def request? (settings : StoreSettings) (set : QuerySet) : Option Request := do
  let url ← Url.read (endpoint settings set)
  return ⟨url, "POST", "application/json", set.toJson.write⟩

/-- The text of a response.  A byte order mark is no part of it. -/
def Response.text (response : Response) : String :=
  if hasBody response.status then
    match response.body.toList with
    | '\uFEFF' :: rest => String.ofList rest
    | _ => response.body
  else ""

/-- The rows of a response, or why there are none. -/
def Response.rows (response : Response) : Except Failure (List Row) :=
  if isSuccess response.status then
    match (Json.parse response.text).bind Row.answerOfJson? with
    | some rows => .ok rows
    | none => .error (.serialization "the answer does not hold rows")
  else .error (.store (statusText response.status ++ ": " ++ response.text))

/-- A query set is posted. -/
def queryingEvent (settings : StoreSettings) (set : QuerySet) : Log.Event :=
  { level := .debug, source := .exchange, message := "Querying metrics store",
    fields := [("endpoint", .text (endpoint settings set)),
      ("expression", .text set.expression)] }

/-- A response comes without success. -/
def rejectedEvent (settings : StoreSettings) (set : QuerySet) (status : Nat) : Log.Event :=
  { level := .warn, source := .exchange, message := "Metrics store rejected query",
    fields := [("endpoint", .text (endpoint settings set)), ("status", .text (statusText status))] }

/-- The response to a query set, if it can be sent and is answered. -/
def respond (settings : StoreSettings) (wire : Wire) (set : QuerySet) : Option Response :=
  ((request? settings set).bind wire).filter fun response => endsExchange response.status

/-- The store behind a wire. -/
def store (settings : StoreSettings) (wire : Wire) : Store := fun set =>
  let querying := queryingEvent settings set
  match respond settings wire set with
  | none =>
    { answer := .error (.transport ("no response from " ++ endpoint settings set)),
      logged := [querying] }
  | some response =>
    { answer := response.rows
      logged := if isSuccess response.status then [querying]
        else [querying, rejectedEvent settings set response.status] }

theorem delay_store (settings : StoreSettings) (wire : Wire) (set : QuerySet) :
    (store settings wire set).delay = 0 := by
  unfold store
  cases respond settings wire set <;> rfl

end RpcMetrics.Http
