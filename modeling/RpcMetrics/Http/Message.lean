import RpcMetrics.Http.Exchange

/-!
# Messages on a connection

How requests and responses are spelt on a connection that carries one of each and is then closed.
A response has a head of lines and a body, which is as long as its head says, or comes in chunks
that each say how long they are, or goes on to the end.
-/
namespace RpcMetrics.Http

/-- A request as it is sent. -/
def Request.message (request : Request) : String :=
  "\r\n".intercalate [
    request.method ++ " " ++ request.url.target ++ " HTTP/1.1",
    "host: " ++ request.url.host.text ++ ":" ++ Decimal.writeNat request.url.port,
    "content-type: " ++ request.contentType,
    "content-length: " ++ Decimal.writeNat request.body.utf8ByteSize,
    "connection: close",
    "", request.body]

/-- The bytes before the next line feed, and those after it. -/
def takeLine (bytes : List UInt8) : Option (List UInt8 × List UInt8) :=
  match bytes.dropWhile (· != 10) with
  | [] => none
  | _ :: rest => some ((bytes.takeWhile (· != 10)).filter (· != 13), rest)

/-- The bytes as text, if they are UTF-8. -/
def textOf (bytes : List UInt8) : Option String := String.fromUTF8? (ByteArray.mk bytes.toArray)

/-- The lines up to an empty one, of which there are no more than `fuel`, and what follows. -/
def takeHead : Nat → List UInt8 → Option (List String × List UInt8)
  | 0, _ => none
  | fuel + 1, bytes => do
    let (line, rest) ← takeLine bytes
    if line.isEmpty then return ([], rest)
    let (lines, rest) ← takeHead fuel rest
    return ((← textOf line) :: lines, rest)

/-- The value of a header, if a line holds it.  Names are in letters of either case. -/
def header? (name : String) (lines : List String) : Option String :=
  lines.findSome? fun line =>
    let (field, value) := Url.splitWhere (· == ':') line.toList
    if String.ofList (field.map Char.toLower) == name then
      some (String.ofList ((value.drop 1).filter (· != ' ')))
    else none

/-- The number that hexadecimal digits stand for, if there are any. -/
def readHex (text : String) : Option Nat :=
  let digit (c : Char) : Option Nat := "0123456789abcdef".toList.findIdx? (· == c.toLower)
  let digits := text.toList.takeWhile (· != ';')
  if digits.isEmpty then none
  else digits.foldlM (fun n c => (digit c).map (16 * n + ·)) 0

/-- The bytes of chunks, of which there are no more than `fuel`. -/
def joinChunks : Nat → List UInt8 → Option (List UInt8)
  | 0, _ => none
  | fuel + 1, bytes => do
    let (line, rest) ← takeLine bytes
    let size ← readHex (← textOf line)
    if size = 0 then return []
    if rest.length < size then none
    let (_, others) ← takeLine (rest.drop size)
    return rest.take size ++ (← joinChunks fuel others)

/-- The body of a response with some headers. -/
def readBody (headers : List String) (bytes : List UInt8) : Option (List UInt8) :=
  match header? "transfer-encoding" headers, header? "content-length" headers with
  | some _, _ => joinChunks bytes.length bytes
  | none, some length => do
    let length ← Decimal.readUnsigned length
    if bytes.length < length then none
    return bytes.take length
  | none, none => some bytes

def Response.ofMessage? (bytes : List UInt8) : Option Response := do
  let (lines, rest) ← takeHead bytes.length bytes
  let status :: headers := lines | none
  let code := (status.toList.dropWhile (· != ' ')).drop 1
  let code ← Decimal.readDigits (code.takeWhile (· != ' '))
  let body ← readBody headers rest
  return ⟨code, ← textOf body⟩

end RpcMetrics.Http
