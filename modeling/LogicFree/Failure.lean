import LogicFree.Violation

/-! The two ways in which a compilation fails. -/

namespace LogicFree

/-- Either the source could not be read, or it was read and holds something
other than structure and plain reads. -/
inductive Failure where
  | malformed (diagnostic : String) (line column : Nat) (span : Span)
  | policy (violations : List Violation)
deriving Repr, DecidableEq

/-- The message of every policy failure. -/
def logicFreeMessage : String := "Jet templates are logic free"

/-- The one-line message. That of a source that could not be read names the place. -/
def Failure.message : Failure → String
  | .malformed diagnostic line column _ =>
    "Unexpected token (" ++ toString line ++ ":" ++ toString column ++ "): " ++ diagnostic
  | .policy _ => logicFreeMessage

def Failure.isMalformed : Failure → Bool
  | .malformed .. => true
  | .policy _ => false

def Failure.isPolicy : Failure → Bool
  | .malformed .. => false
  | .policy _ => true

/-- The violations of a failure, none for a source that could not be read. -/
def Failure.violations : Failure → List Violation
  | .malformed .. => []
  | .policy violations => violations

/-- A single violation is a failure of its own. -/
def Violation.toFailure (violation : Violation) : Failure := .policy [violation]

end LogicFree
