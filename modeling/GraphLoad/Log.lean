/-! Log entries. What a step says is a value of its own, beside the step's outcome. -/

namespace GraphLoad.Log

inductive Level where
  | debug
  | info
  | warn
  | error
deriving DecidableEq, Repr

structure Entry where
  level : Level
  message : String
deriving DecidableEq, Repr

/-- A detail. -/
def Entry.debug (message : String) : Entry := ⟨.debug, message⟩

/-- A step of the work. -/
def Entry.info (message : String) : Entry := ⟨.info, message⟩

/-- Something left out or about to be lost. -/
def Entry.warn (message : String) : Entry := ⟨.warn, message⟩

/-- A failure. -/
def Entry.error (message : String) : Entry := ⟨.error, message⟩

def Level.name : Level → String
  | .debug => "DEBUG"
  | .info => "INFO"
  | .warn => "WARN"
  | .error => "ERROR"

end GraphLoad.Log
