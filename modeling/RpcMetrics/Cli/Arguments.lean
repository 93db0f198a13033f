import RpcMetrics.Cli.Switch

/-!
# Reading the command line

Arguments are read from left to right.  A value follows its switch in the next argument or after
an equals sign, and letters of switches may share a hyphen.  The value of a switch is looked at
when something else follows it or its place ends, which for switches before the command is after
everything else.  A switch that shows help or the version stops the reading at once, so only what
is wrong before it counts.
-/
namespace RpcMetrics.Cli

/-- Why reading stops before the end. -/
inductive Stop where
  /-- The arguments are out of order. -/
  | misused
  | help (command : Option CommandName)
  | version (command : Option CommandName)
  deriving DecidableEq, Repr

/-- A switch with its value, which is empty for a switch without one. -/
abbrev Given := Switch × String

/-! ### The switches of one place -/

/-- What has been read in one place, before the command or after it. -/
structure Reading where
  /-- The switches whose values are in order. -/
  settled : List Given := []
  /-- The last switch, if its value has not been looked at. -/
  waiting : Option Given := none
  /-- The switch whose value comes next. -/
  wanting : Option Switch := none

namespace Reading

/-- Whether a switch can be added to others. -/
def admits (settled : List Given) (given : Given) : Bool :=
  given.1.accepts given.2
    && (given.1.repeats || !settled.any fun earlier => earlier.1 == given.1)

/-- Looks at the value of the last switch.  None may be missing. -/
def settle (reading : Reading) : Except Stop Reading :=
  match reading.wanting, reading.waiting with
  | some _, _ => .error .misused
  | none, none => .ok reading
  | none, some given =>
    if admits reading.settled given then .ok { settled := reading.settled ++ [given] }
    else .error .misused

/-- A switch with its value, which is looked at right away. -/
def take (reading : Reading) (given : Given) : Except Stop Reading := do
  let reading ← reading.settle
  settle { reading with waiting := some given }

/-- A switch whose value comes next. -/
def want (reading : Reading) (switch : Switch) : Except Stop Reading := do
  let reading ← reading.settle
  return { reading with wanting := some switch }

/-- A switch without a value. -/
def flag (reading : Reading) (command : Option CommandName) (switch : Switch) :
    Except Stop Reading := do
  let reading ← reading.settle
  match switch with
  | .help => throw (.help command)
  | .version => throw (.version command)
  | _ => reading.take (switch, "")

/-- A switch by its name, with a value after an equals sign if there is one. -/
def long (reading : Reading) (command : Option CommandName) (text : List Char) :
    Except Stop Reading :=
  let name := String.ofList (text.takeWhile (· != '='))
  match (Switch.available command).find? fun switch => switch.long == name with
  | none => .error .misused
  | some switch =>
    match switch.takesValue, text.dropWhile (· != '=') with
    | true, [] => reading.want switch
    | true, _ :: value => reading.take (switch, String.ofList value)
    | false, [] => reading.flag command switch
    | false, _ => .error .misused

/-- Switches by their letters; the first that takes a value takes the rest for it, after an
equals sign if there is one. -/
def letters (command : Option CommandName) (reading : Reading) : List Char → Except Stop Reading
  | [] => .ok reading
  | c :: rest =>
    match (Switch.available command).find? fun switch => switch.letter? == some c with
    | none => .error .misused
    | some switch =>
      match switch.takesValue, rest with
      | true, [] => reading.want switch
      | true, '=' :: value => reading.take (switch, String.ofList value)
      | true, value => reading.take (switch, String.ofList value)
      | false, _ => do letters command (← reading.flag command switch) rest

/-- Whether an argument can be the value of a switch: it must not look like a switch itself. -/
def canBeValue (switch : Switch) (arg : String) : Bool :=
  switch.takesAnything || arg == "-" || arg.toList.head? != some '-'

/-- What help is shown for words after the command `help`. -/
def helpFor : List String → Stop
  | [] | ["help"] => .help none
  | [name] =>
    match CommandName.ofName? name with
    | some command => .help (some command)
    | none => .misused
  | _ => .misused

/-- Reads the switches of a place, up to the command if it has not been read yet. -/
def readPlace (command : Option CommandName) (reading : Reading) :
    List String → Except Stop (Reading × Option (CommandName × List String))
  | [] => .ok (reading, none)
  | arg :: args =>
    match reading.wanting with
    | some switch =>
      if canBeValue switch arg then
        readPlace command { reading with waiting := some (switch, arg), wanting := none } args
      else .error .misused
    | none =>
      match arg.toList with
      -- switches end here, and no word that follows could be taken
      | ['-', '-'] => if args.isEmpty then .ok (reading, none) else .error .misused
      | '-' :: '-' :: text => do readPlace command (← reading.long command text) args
      | '-' :: c :: text => do readPlace command (← reading.letters command (c :: text)) args
      | _ =>
        match command, CommandName.ofName? arg with
        | none, some command => .ok (reading, some (command, args))
        | none, none => if arg = "help" then .error (helpFor args) else .error .misused
        | some _, _ => .error .misused

/-- The values of a switch in their order. -/
def values (reading : Reading) (switch : Switch) : List String :=
  (reading.settled.filter fun given => given.1 == switch).map Prod.snd

/-- The value of a switch that is not repeated. -/
def value? (reading : Reading) (switch : Switch) : Option String := (reading.values switch).head?

/-- The value of a switch that may not be left out. -/
def required (reading : Reading) (switch : Switch) : Except Stop String :=
  match reading.value? switch with
  | some value => .ok value
  | none => .error .misused

/-- The value of a switch as a signed number. -/
def signed? (reading : Reading) (switch : Switch) : Option Int64 :=
  ((reading.value? switch).bind Decimal.readSigned).map Int64.ofInt

end Reading

/-! ### The whole command line -/

/-- Which application is meant. -/
structure Application where
  /-- The business that owns it. -/
  business : Int64
  name : String
  group : String
  /-- The start of the window in seconds. -/
  start : Option Int64
  /-- The end of the window in seconds. -/
  stop : Option Int64
  deriving DecidableEq, Repr

/-- Which calculation is meant, in words. -/
structure Request where
  calculation : String
  role : String
  temporality : Option String
  server : Option String
  /-- The calculation that a ranking ranks. -/
  ranked : Option String
  /-- How many series a ranking keeps. -/
  limit : Option UInt64
  groupBy : List String
  filters : List String
  deriving DecidableEq, Repr

/-- A command with what it needs. -/
inductive Command where
  | calculate (request : Request)
  | servers
  /-- Find out how the metrics of a server accumulate. -/
  | serverConfig (server : String)
  deriving DecidableEq, Repr

/-- What the command line says. -/
structure Arguments where
  config : Option String
  verbose : Bool
  format : OutputFormat
  app : Application
  command : Command
  deriving DecidableEq, Repr

namespace Arguments

/-- The values between commas. -/
def commaSeparated (value : String) : List String := (value.toList.splitOn ',').map String.ofList

/-- The application of a command. -/
def readApplication (reading : Reading) : Except Stop Application := do
  let some business := reading.signed? .business | throw .misused
  return {
    business
    name := ← reading.required .app
    group := (reading.value? .group).getD "trpc"
    start := reading.signed? .start
    stop := reading.signed? .stop }

/-- The request of a calculation. -/
def readRequest (reading : Reading) : Except Stop Request := do
  return {
    calculation := ← reading.required .calculation
    role := (reading.value? .role).getD "caller"
    temporality := reading.value? .temporality
    server := reading.value? .server
    ranked := reading.value? .ranked
    limit := ((reading.value? .limit).bind Decimal.readUnsigned).map UInt64.ofNat
    groupBy := (reading.values .groupBy).flatMap commaSeparated
    filters := reading.values .filter }

/-- A command with what it needs. -/
def readCommand (reading : Reading) : CommandName → Except Stop Command
  | .calculate => do return .calculate (← readRequest reading)
  | .servers => .ok .servers
  | .serverConfig => do return .serverConfig (← reading.required .server)

/-- The value of a switch that may stand in both places: the one after the command counts. -/
def sharedValue? (before after : Reading) (switch : Switch) : Option String :=
  (after.value? switch).or (before.value? switch)

/-- Whether the configuration file that the environment names is in order wherever no switch names
one. -/
def admitsConfig (environmentConfig : Option String) (reading : Reading) : Bool :=
  (reading.value? .config).isSome || environmentConfig.all (Switch.accepts .config)

/-- Reads the command line.  The environment may name a configuration file, too. -/
def read (environmentConfig : Option String) (args : List String) : Except Stop Arguments := do
  let (before, rest) ← Reading.readPlace none {} args
  let some (name, rest) := rest | throw .misused
  let (after, _) ← Reading.readPlace (some name) {} rest
  let after ← after.settle
  if !admitsConfig environmentConfig after then throw .misused
  let app ← readApplication after
  let command ← readCommand after name
  let before ← before.settle
  if !admitsConfig environmentConfig before then throw .misused
  return {
    config := (sharedValue? before after .config).or environmentConfig
    verbose := (sharedValue? before after .verbose).isSome
    format := ((sharedValue? before after .format).bind OutputFormat.ofName?).getD .text
    app, command }

end Arguments
end RpcMetrics.Cli
