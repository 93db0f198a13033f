import RpcMetrics.Cli.Program
import RpcMetrics.Http.Message
import RpcMetrics.Json.Printer
import RpcMetrics.Log.Layout
import Std.Async.DNS
import Std.Async.TCP
import Std.Time

/-!
# The executable

The outer layer of the program: it collects what a run depends on, exchanges the run's requests
with the store, and writes what the run comes to.  A run is pure, so it is repeated with the
responses known so far until it sends nothing new.
-/
namespace RpcMetrics.Main

open Std Async

/-- The variables of the process. -/
def readEnvironment : IO Environment := do
  let bytes ← IO.FS.readBinFile "/proc/self/environ"
  let texts := (bytes.toList.splitOn 0).filterMap Http.textOf
  return .ofList (texts.map fun text =>
    let (name, value) := Http.Url.splitWhere (· == '=') text.toList
    (String.ofList name, String.ofList (value.drop 1)))

/-- The text of a file, if it can be read. -/
def readFile? (path : String) : IO (Option String) := do
  try
    return some (← IO.FS.readFile path)
  catch _ => return none

/-- Everything that is received until the connection is closed. -/
partial def receive (socket : TCP.Socket.Client) (received : ByteArray) : Async ByteArray := do
  match ← socket.recv? 65536 with
  | some bytes => receive socket (received ++ bytes)
  | none => return received

/-- A port at an address. -/
def socketAddress (port : UInt16) : Net.IPAddr → Net.SocketAddress
  | .v4 address => .v4 ⟨address, port⟩
  | .v6 address => .v6 ⟨address, port⟩

/-- Sends a request to a port at an address. -/
def exchangeWith (request : Http.Request) (address : Net.IPAddr) :
    Async (Option Http.Response) := do
  let socket ← TCP.Socket.Client.mk
  socket.connect (socketAddress request.url.port.toUInt16 address)
  socket.send request.message.toUTF8
  return Http.Response.ofMessage? (← receive socket .empty).toList

/-- Sends a request to its host, if there is a way to reach it. -/
def exchange (request : Http.Request) : IO (Option Http.Response) := do
  if request.url.secure then return none
  let host := String.ofList (request.url.host.text.toList.filter fun c => c != '[' && c != ']')
  try
    let addresses ← (DNS.getAddrInfo host "").block
    let some address := addresses[0]? | return none
    (exchangeWith request address).block
  catch _ => return none

/-- The requests that a run sends, in order. -/
def requestsOf (run : Run Cli.Outcome) : List Http.Request :=
  match run.value.settings with
  | some settings => run.trace.sent.filterMap (Http.request? settings.store)
  | none => []

/-- Runs the program until every request has been exchanged. -/
partial def converse (machine : Cli.Machine) (args : List String)
    (known : List (Http.Request × Option Http.Response)) : IO (Run Cli.Outcome) := do
  let run := Cli.run { machine with wire := fun request => (known.lookup request).join } args
  match (requestsOf run).find? fun request => (known.lookup request).isNone with
  | none => return run
  | some request => converse machine args ((request, ← exchange request) :: known)

/-- The paths that the configuration file may have. -/
def configPaths (environment : Environment) (args : List String) : List String :=
  match Cli.Arguments.read (environment.get? Cli.configVariable) args with
  | .ok arguments => arguments.config.toList.flatMap fun path => [path, path ++ ".toml"]
  | .error _ => []

/-- Writes what was logged. -/
def writeLog (run : Run Cli.Outcome) : IO Unit := do
  let some logging := run.value.logging | return
  for event in logging.visible run.trace.logged do
    IO.eprintln (if logging.json then event.toJson.write else event.line)

end RpcMetrics.Main

open RpcMetrics RpcMetrics.Main in
/-- Runs the program. -/
def main (args : List String) : IO UInt32 := do
  let environment ← readEnvironment
  let files ← (configPaths environment args).mapM fun path => do return (path, ← readFile? path)
  let machine : Cli.Machine := {
    environment
    environmentFile := ← readFile? ".env"
    file := fun path => (files.lookup path).join
    wire := fun _ => none
    now := (← Std.Time.Timestamp.now).toSecondsSinceUnixEpoch.val.toInt64 }
  let run ← converse machine args []
  writeLog run
  match run.value.result with
  | .ok text => IO.print text
  | .error fault => IO.eprintln fault.message
  return run.value.exitCode
