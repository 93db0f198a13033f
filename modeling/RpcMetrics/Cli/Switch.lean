import RpcMetrics.Decimal.Integer

/-!
# Commands and switches

The command line names one command.  Switches may stand before it and after it; those of the
program go to either place, and those of a command only behind it.  A switch has a long name, and
some have a letter.  Most take a value.
-/
namespace RpcMetrics.Cli

/-- The commands. -/
inductive CommandName where
  | calculate
  /-- List the servers seen at either end of a call. -/
  | servers
  /-- Find out how the metrics of a server accumulate. -/
  | serverConfig
  deriving DecidableEq, Repr

namespace CommandName

/-- The name on the command line. -/
def name : CommandName → String
  | calculate => "calc"
  | servers => "servers"
  | serverConfig => "server-config"

def all : List CommandName := [calculate, servers, serverConfig]

def ofName? (name : String) : Option CommandName := all.find? fun command => command.name == name

end CommandName

/-- How results are written. -/
inductive OutputFormat where
  | text
  | json
  deriving DecidableEq, Repr

namespace OutputFormat

/-- The name on the command line. -/
def name : OutputFormat → String
  | text => "text"
  | json => "json"

def all : List OutputFormat := [text, json]

def ofName? (name : String) : Option OutputFormat := all.find? fun format => format.name == name

end OutputFormat

/-- The switches. -/
inductive Switch where
  | config
  | verbose
  | format
  /-- Shows how the program is used. -/
  | help
  /-- Shows which version of the program this is. -/
  | version
  /-- The business that owns the application. -/
  | business
  | app
  | group
  /-- The start of the window in seconds. -/
  | start
  /-- The end of the window in seconds. -/
  | stop
  | calculation
  | role
  | temporality
  | server
  /-- The calculation that a ranking ranks. -/
  | ranked
  /-- How many series a ranking keeps. -/
  | limit
  /-- Dimensions between commas. -/
  | groupBy
  | filter
  deriving DecidableEq, Repr

namespace Switch

/-- The name after two hyphens. -/
def long : Switch → String
  | config => "config"
  | verbose => "verbose"
  | format => "format"
  | help => "help"
  | version => "version"
  | business => "biz-id"
  | app => "app"
  | group => "group"
  | start => "start"
  | stop => "end"
  | calculation => "calculation"
  | role => "role"
  | temporality => "temporality"
  | server => "server"
  | ranked => "qs-type"
  | limit => "limit"
  | groupBy => "group-by"
  | filter => "filter"

/-- The letter after one hyphen, if there is one. -/
def letter? : Switch → Option Char
  | config => some 'c'
  | verbose => some 'v'
  | help => some 'h'
  | version => some 'V'
  | _ => none

/-- Whether a value belongs to the switch. -/
def takesValue : Switch → Bool
  | verbose | help | version => false
  | _ => true

/-- Whether the value may be any argument, even one that looks like a switch. -/
def takesAnything : Switch → Bool
  | business => true
  | _ => false

/-- Whether the switch may be repeated. -/
def repeats : Switch → Bool
  | groupBy | filter => true
  | _ => false

/-- Whether the value is in order. -/
def accepts : Switch → String → Bool
  | config, value => !value.isEmpty
  | format, value => (OutputFormat.ofName? value).isSome
  | business, value | start, value | stop, value => (Decimal.readSigned value).isSome
  | limit, value => (Decimal.readUnsigned value).isSome
  | _, _ => true

/-- The switches of the program. -/
def shared : List Switch := [config, verbose, format, help, version]

/-- The switches that say which application is meant. -/
def ofApplication : List Switch := [business, app, group, start, stop]

/-- The switches that may stand before a command, or after the one given. -/
def available : Option CommandName → List Switch
  | none => shared
  | some .calculate =>
    shared ++ ofApplication
      ++ [calculation, role, temporality, server, ranked, limit, groupBy, filter]
  | some .servers => shared ++ ofApplication
  | some .serverConfig => shared ++ ofApplication ++ [server]

end Switch
end RpcMetrics.Cli
