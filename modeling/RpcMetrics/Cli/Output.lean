import RpcMetrics.Cli.Switch
import RpcMetrics.Data.NameSet
import RpcMetrics.Json.Printer
import RpcMetrics.Params
import RpcMetrics.Query.Row

/-!
# Output of commands

Every command writes its result in one of two formats.  As text, a row is a line with its
dimensions, a tab and its number to four places, and a server is a line with its name.  As JSON,
the whole result is one indented value.
-/
namespace RpcMetrics.Cli

/-- Lines, each with its end. -/
def lines (texts : List String) : String := String.join (texts.map (· ++ "\n"))

/-- A dimension with its value. -/
def dimensionText (entry : String × String) : String := entry.1 ++ "=" ++ entry.2

/-- A row as a line. -/
def rowLine (row : Row) : String :=
  " ".intercalate (row.dimensions.entries.map dimensionText) ++ "\t" ++ Decimal.fixed 4 row.value

/-- The rows of a calculation. -/
def rowsOutput (rows : List Row) : OutputFormat → String
  | .json => lines [(Json.array (rows.map Row.toJson)).pretty]
  | .text => lines (if rows.isEmpty then ["(no data)"] else rows.map rowLine)

/-- The names of servers. -/
def serversOutput (servers : Data.NameSet) : OutputFormat → String
  | .json => lines [(Json.ofTexts servers.toList).pretty]
  | .text => lines servers.toList

/-- The settings found out about a server. -/
def profileOutput (server : String) (profile : ServerProfile) : OutputFormat → String
  | .json => lines [profile.toJson.pretty]
  | .text => lines [server ++ ": " ++ profile.temporality.name]

end RpcMetrics.Cli
