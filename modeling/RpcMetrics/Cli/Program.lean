import RpcMetrics.Cli.Arguments
import RpcMetrics.Cli.Output
import RpcMetrics.Environment.File
import RpcMetrics.Group
import RpcMetrics.Http.Exchange
import RpcMetrics.Log.Filter
import RpcMetrics.Settings.Layers

/-!
# The program

The program reads its arguments, then the environment file, then the settings, and only then
begins to log.  A calculation is checked name by name before anything is asked of the store, and
if a server is named without a temporality, two probes find it out first.  Everything the program
depends on comes in a `Machine`, and everything it does is in the `Run` of its `Outcome`.
-/
namespace RpcMetrics.Cli

/-- What the program depends on. -/
structure Machine where
  environment : Environment
  /-- The environment file of the working directory, if there is one. -/
  environmentFile : Option String
  /-- The files that can be read, by their paths. -/
  file : String → Option String
  wire : Http.Wire
  /-- The clock in seconds. -/
  now : Int64

/-- Why there is no result. -/
inductive Fault where
  /-- The arguments are out of order. -/
  | misused
  /-- The settings cannot be loaded. -/
  | unconfigured (failure : Failure)
  /-- A condition has no equals sign. -/
  | malformedFilter (spec : String)
  /-- The application has no table. -/
  | unresolvedTable (failure : Failure)
  /-- What was asked for cannot be had. -/
  | failed (failure : Failure)
  deriving DecidableEq, Repr

namespace Fault

def message : Fault → String
  | misused => "Error: the arguments are out of order, see --help"
  | unconfigured failure => "Error loading configuration: " ++ failure.message
  | malformedFilter spec => "Error: filter `" ++ spec ++ "` is not `field__op=value`"
  | unresolvedTable failure => "Error: failed to resolve metric table: " ++ failure.message
  | failed failure => "Error: " ++ failure.message

/-- The exit code of a fault. -/
def exitCode : Fault → UInt32
  | misused => 2
  | _ => 1

end Fault

/-- What the program does in turn, until a fault. -/
abbrev Action := ExceptT Fault Run

/-- A result that may be a failure. -/
def check {α : Type} (result : Except Failure α) : Action α :=
  match result with
  | .ok value => pure value
  | .error failure => throw (.failed failure)

/-! ### Logging -/

/-- How records are laid out, and which are. -/
structure Logging where
  /-- Whether each record is a JSON object. -/
  json : Bool
  filter : Log.Filter

/-- The variable that holds log directives. -/
def logVariable : String := "RUST_LOG"

/-- What is logged: the variable decides if its directives are in order, then the switch, then the
settings. -/
def logging (environment : Environment) (verbose : Bool) (settings : LoggingSettings) : Logging :=
  let filter := match (environment.get? logVariable).bind Log.Filter.readAll with
    | some filter => filter
    | none => Log.Filter.readSome (if verbose then "debug" else settings.level)
  ⟨settings.format == "json", filter⟩

/-- The events that are let through. -/
def Logging.visible (logging : Logging) (records : List Log.Record) : List Log.Event :=
  records.filterMap fun record =>
    match record with
    | .opened _ => none
    | .reported event spans => if logging.filter.lets event spans then some event else none

/-! ### Groups -/

/-- What the commands of one run share. -/
structure Context where
  settings : Settings
  store : Store
  /-- The clock in seconds. -/
  now : Int64
  app : Application

/-- Something is found out about the table of an application. -/
def tableEvent (source : Log.Source) (message : String) (app : Application) (table : String) :
    Log.Event :=
  { level := .debug, source, message,
    fields := [("biz_id", .number app.business.toInt), ("app_name", .text app.name),
      ("table_id", .text table)] }

/-- The metrics of the application. -/
def openScope (context : Context) : Action Scope :=
  let app := context.app
  match context.settings.table.resolve app.business app.name with
  | .error failure => throw (.unresolvedTable failure)
  | .ok table => do
    if (context.settings.table.override? app.business app.name).isSome then
      Run.log (tableEvent .tables "Using configured metric table" app table)
    Run.log (tableEvent .metrics "Resolved metric table" app table)
    return ⟨table, context.settings.query, context.settings.discovery⟩

/-- The metric group of the application. -/
def openGroup (context : Context) (options : GroupOptions) : Action Group := do
  match ← check (GroupKind.parse context.app.group) with
  | .trpc => return ⟨← openScope context, options⟩

/-! ### Commands -/

/-- Splits a condition at its first equals sign. -/
def readFilter (spec : String) : Except Fault (String × String) :=
  match spec.toList.dropWhile (· != '=') with
  | _ :: value => .ok (String.ofList (spec.toList.takeWhile (· != '=')), String.ofList value)
  | [] => .error (.malformedFilter spec)

/-- The filter of conditions, of which the last with a key counts, in the order of the keys. -/
def readFilters (specs : List String) : Action Filter := do
  let entries ← (specs.mapM readFilter : Except Fault _)
  let keyed := Data.Dictionary.ofList entries
  check (Filter.ofSpecs (keyed.entries.map fun entry => (entry.1, .string entry.2)))

/-- The conditions of a request with the one on its server, if it names one. -/
def withServer (filter : Filter) (role : Role) : Option String → Filter
  | some server => filter.and (.equal role.serverTag server)
  | none => filter

/-- A temporality has been found out. -/
def detectedEvent (server : String) (temporality : Temporality) : Log.Event :=
  { level := .info, source := .command, message := "Detected temporality",
    fields := [("server", .text server), ("temporality", .text temporality.name)] }

/-- Finds out the settings of a server. -/
def detect (context : Context) (server : String) : Action ServerProfile := do
  let group ← openGroup context {}
  group.serverProfile context.store context.now server context.app.start context.app.stop

/-- How the counters accumulate: as the request says, or as its server tells. -/
def chooseTemporality (context : Context) (request : Request) : Action Temporality :=
  match request.temporality, request.server with
  | some name, _ => check (Temporality.parse name)
  | none, some server => do
    let profile ← detect context server
    Run.log (detectedEvent server profile.temporality)
    return profile.temporality
  | none, none => return .default

/-- A calculation begins. -/
def runningEvent (group : Group) (calculation : Calculation) : Log.Event :=
  { level := .info, source := .command, message := "Running calculation",
    fields := [("group", .text group.kind.name), ("role", .text group.options.role.name),
      ("temporality", .text group.options.temporality.name),
      ("calculation", .text calculation.name)] }

/-- Runs the calculation of a request. -/
def calculate (context : Context) (request : Request) : Action (List Row) := do
  let calculation ← check (Calculation.parse request.calculation)
  let role ← check (Role.parse request.role)
  let ranked ← check (request.ranked.mapM Calculation.parse)
  let filter ← readFilters request.filters
  let temporality ← chooseTemporality context request
  let group ← openGroup context
    { groupBy := request.groupBy, filter := withServer filter role request.server, role,
      temporality }
  Run.log (runningEvent group calculation)
  let params : Params :=
    { start := context.app.start, stop := context.app.stop, ranked, limit := request.limit }
  check (← group.handle context.store context.now calculation params)

/-- Runs a command and writes its result. -/
def perform (context : Context) (format : OutputFormat) : Command → Action String
  | .calculate request => do return rowsOutput (← calculate context request) format
  | .servers => do
    let group ← openGroup context {}
    let servers ← group.serverList context.store context.now context.app.start context.app.stop
    return serversOutput servers format
  | .serverConfig server => do return profileOutput server (← detect context server) format

/-! ### Runs of the program -/

/-- What a run of the program comes to. -/
structure Outcome where
  /-- What is written, or why there is nothing to write. -/
  result : Except Fault String
  /-- The settings, if they have been loaded. -/
  settings : Option Settings := none
  /-- How it was logged, if logging had begun. -/
  logging : Option Logging := none

def Outcome.exitCode (outcome : Outcome) : UInt32 :=
  match outcome.result with
  | .ok _ => 0
  | .error fault => fault.exitCode

/-- The name of the program, followed by that of a command. -/
def programName : Option CommandName → String
  | none => "apm-metrics"
  | some command => "apm-metrics-" ++ command.name

/-- The version of the program. -/
def versionText (command : Option CommandName) : String := programName command ++ " 0.1.0\n"

/-- A switch as the usage lists it. -/
def switchUsage (switch : Switch) : String :=
  (match switch.letter? with
    | some letter => "  -" ++ String.singleton letter ++ ", --"
    | none => "      --")
    ++ switch.long ++ (if switch.takesValue then " <value>" else "")

/-- How the program is used. -/
def usageText (command : Option CommandName) : String :=
  let commands := CommandName.all.map fun command => "  " ++ command.name
  lines ((match command with
    | none => ["Usage: apm-metrics [options] <command>", "", "Commands:"] ++ commands
    | some command => ["Usage: apm-metrics " ++ command.name ++ " [options]"])
    ++ ["", "Options:"] ++ (Switch.available command).map switchUsage)

/-- What is left to do when reading the arguments has stopped. -/
def Stop.outcome : Stop → Outcome
  | .misused => { result := .error .misused }
  | .help command => { result := .ok (usageText command) }
  | .version command => { result := .ok (versionText command) }

/-- The variable that names the configuration file. -/
def configVariable : String := "APM_METRICS_CONFIG"

/-- The file at a path.  The end of the path may be left out. -/
def findFile (file : String → Option String) (path : String) : Settings.File :=
  match file path with
  | some text => if path.endsWith ".toml" then .holding text else .missing
  | none =>
    match file (path ++ ".toml") with
    | some text => .holding text
    | none => .missing

/-- The configuration file that the arguments name. -/
def configFile (machine : Machine) : Option String → Settings.File
  | none => .unnamed
  | some path => findFile machine.file path

/-- The variables of the process with those of the environment file. -/
def Machine.variables (machine : Machine) : Environment :=
  match machine.environmentFile with
  | some file => machine.environment.load file
  | none => machine.environment

/-- Runs the program with arguments that are in order. -/
def runArguments (machine : Machine) (arguments : Arguments) : Run Outcome :=
  let environment := machine.variables
  match Settings.load (configFile machine arguments.config) environment with
  | .error failure => return { result := .error (.unconfigured failure) }
  | .ok settings => do
    let context : Context :=
      ⟨settings, Http.store settings.store machine.wire, machine.now, arguments.app⟩
    let result ← (perform context arguments.format arguments.command).run
    return {
      result, settings := some settings,
      logging := some (logging environment arguments.verbose settings.logging) }

/-- Runs the program. -/
def run (machine : Machine) (args : List String) : Run Outcome :=
  match Arguments.read (machine.environment.get? configVariable) args with
  | .error stop => return stop.outcome
  | .ok arguments => runArguments machine arguments

end RpcMetrics.Cli
