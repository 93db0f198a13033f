import RpcMetrics.Data.Dictionary
import RpcMetrics.Failure
import RpcMetrics.Text.LetterCase

/-!
# Tables of applications

The metrics of an application live in a table that is named after the business that owns it and
after the application.  Table names are in lower case and use no hyphen.  A business id below
zero stands for a space.  An application may be given another table by an override, which is
filed under its exact name.
-/
namespace RpcMetrics

/-- How tables are named. -/
structure TableNaming where
  /-- The part between the business and the application. -/
  middle : String
  /-- Tables that go by no rule, under `business/application`. -/
  overrides : Data.Dictionary String

namespace TableNaming

/-- The key of an override. -/
def overrideKey (business : Int64) (app : String) : String :=
  Decimal.writeInt business.toInt ++ "/" ++ app

/-- The table that an application is given by an override. -/
def override? (naming : TableNaming) (business : Int64) (app : String) : Option String :=
  naming.overrides.get? (overrideKey business app)

/-- The name of an application as tables spell it. -/
def normalize (app : String) : String :=
  (Text.lower app).map fun c => if c = '-' then '_' else c

/-- The owner as tables spell it. -/
def owner (business : Int64) : String :=
  if business < 0 then "space_" ++ Decimal.writeNat business.toInt.natAbs
  else Decimal.writeInt business.toInt

/-- The table of an application by the rule. -/
def derive (naming : TableNaming) (business : Int64) (app : String) : String :=
  owner business ++ "_" ++ naming.middle ++ "_" ++ normalize app ++ ".__default__"

/-- The table of an application. -/
def resolve (naming : TableNaming) (business : Int64) (app : String) : Except Failure String :=
  if app.isEmpty then .error (.invalidArgument .emptyApp)
  else
    match naming.override? business app with
    | some table => .ok table
    | none => .ok (naming.derive business app)

end TableNaming
end RpcMetrics
