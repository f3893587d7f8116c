/-!
# Log levels

How much is logged for each level of verbosity that a user can ask for.
-/

namespace QueryBridge

/-- The filter of the log for a level of verbosity. -/
def defaultFilter : (verbosity : Nat) → String
  | 0 => "error"
  | 1 => "info,loper::bridge=debug,loper::session=debug"
  | _ => "trace"

end QueryBridge
