/-!
# Log records

What a run reports beside its result. A record has a level, the part of the program it
comes from, and a message.
-/

namespace SourceAudit

/-- The levels of records. -/
inductive Level where
  | debug
  | info
  | warning
  deriving DecidableEq, Repr

def Level.rank : Level → Nat
  | .debug => 10
  | .info => 20
  | .warning => 30

def Level.name : Level → String
  | .debug => "DEBUG"
  | .info => "INFO"
  | .warning => "WARNING"

/-- A log record. -/
structure LogRecord where
  level : Level
  source : String
  message : String
  deriving DecidableEq, Repr

/-- Log records in the order they were made. -/
abbrev Log := List LogRecord

end SourceAudit
