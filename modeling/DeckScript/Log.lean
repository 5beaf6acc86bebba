/-!
# Log entries
-/

namespace DeckScript

/-- How serious a log entry is. -/
inductive Level where
  | info
  | warning
  | error
deriving Repr, DecidableEq

/-- The name of a level. -/
def Level.name : Level → String
  | info => "INFO"
  | warning => "WARNING"
  | error => "ERROR"

/-- One line of the log. -/
structure LogEntry where
  level : Level
  message : String
deriving Repr, DecidableEq

end DeckScript
