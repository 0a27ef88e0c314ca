/-! Log records: a level, the part of the program that wrote it, and a message.
-/

set_option autoImplicit false

namespace SheetStore

/-- How much a log record matters. -/
inductive Level where
  | error
  | warn
  | info
  | debug
  | trace
  deriving DecidableEq, Inhabited

def Level.name : Level → String
  | .error => "ERROR"
  | .warn => "WARN"
  | .info => "INFO"
  | .debug => "DEBUG"
  | .trace => "TRACE"

/-- One log record. -/
structure LogRecord where
  level : Level
  target : String
  message : String
  deriving DecidableEq, Inhabited

namespace LogTarget

def history : String := "datable::history"

def store : String := "datable::store"

def logger : String := "datable::logger"

def effects : String := "datable::effects"

def app : String := "datable::app"

end LogTarget

end SheetStore
