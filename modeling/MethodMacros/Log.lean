/-!
# Log entries

What the program tells about its work, apart from its results.
-/

namespace MethodMacros

/-- How important a log entry is. -/
inductive Level where
  | debug
  | info
  | error
  deriving DecidableEq, Repr

/-- The word for a level. -/
def Level.word : Level → String
  | .debug => "DEBUG"
  | .info => "INFO"
  | .error => "ERROR"

/-- An entry of the log. -/
structure LogEntry where
  level : Level
  message : String
  deriving DecidableEq, Repr

end MethodMacros
