/-!
# Log records

What the layers have to say is data of their own. For printing, each piece of it becomes a record: a
level and a text.
-/

namespace DualSlot

/-- How much a log record matters, the most severe first. -/
inductive LogLevel where
  | error
  | warn
  | info
  | debug
  deriving DecidableEq, Repr

namespace LogLevel

def name : LogLevel → String
  | error => "ERROR"
  | warn => "WARN"
  | info => "INFO"
  | debug => "DEBUG"

/-- The place among the levels, 1 for the most severe. -/
def rank : LogLevel → Nat
  | error => 1
  | warn => 2
  | info => 3
  | debug => 4

end LogLevel

/-- A log record, ready for printing. -/
structure LogRecord where
  level : LogLevel
  text : String
  deriving DecidableEq, Repr

end DualSlot
