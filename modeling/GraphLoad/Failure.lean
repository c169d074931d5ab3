/-! Failures of the world outside: what went wrong, and what made it go wrong. -/

namespace GraphLoad

/-- A failure and its causes, each that of the one before. -/
structure Failure where
  outer : String
  causes : List String
deriving DecidableEq, Repr

namespace Failure

def of (message : String) : Failure :=
  ⟨message, []⟩

def context (outer : String) (f : Failure) : Failure :=
  ⟨outer, f.outer :: f.causes⟩

/-- The failure and its causes in one line. -/
def full (f : Failure) : String :=
  ": ".intercalate (f.outer :: f.causes)

/-- The failure, and its causes on lines of their own, numbered if there are several. -/
def report (f : Failure) : String :=
  match f.causes with
  | [] => f.outer
  | [cause] => f.outer ++ "\n\nCaused by:\n    " ++ cause
  | causes => f.outer ++ "\n\nCaused by:" ++
      String.join (causes.zipIdx.map fun (cause, i) => s!"\n    {i}: " ++ cause)

end Failure
end GraphLoad
