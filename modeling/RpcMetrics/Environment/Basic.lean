import RpcMetrics.Data.Dictionary

/-!
# Environments

The variables that a process is started with.  A variable that is set keeps its value when a file
gives it another one.
-/
namespace RpcMetrics

/-- The variables of a process. -/
abbrev Environment := Data.Dictionary String

namespace Environment

/-- Sets a variable unless it is set already. -/
def define (environment : Environment) (name value : String) : Environment :=
  match environment.get? name with
  | some _ => environment
  | none => environment.insert name value

end Environment
end RpcMetrics
