import LogicFree.Violation

/-! The events that a compilation leaves in its log. -/

namespace LogicFree

/-- What becomes of a compilation that meets a violation. -/
inductive Mode where
  /-- The first violation ends the pass. -/
  | first
  /-- The pass goes on, and all violations are reported together. -/
  | collect
deriving Repr, DecidableEq

def Mode.text : Mode → String
  | .first => "FirstViolation"
  | .collect => "Collect"

/-- How much detail an event belongs to. -/
inductive Level where
  | debug
  | trace
deriving Repr, DecidableEq

def Level.text : Level → String
  | .debug => "DEBUG"
  | .trace => "TRACE"

/-- One step of a compilation. -/
inductive Event where
  | parsed (file : String) (statements : Nat)
  | compiling (statements roots : Nat) (mode : Mode)
  | element (tag : String) (attributes children : Nat) (selfClosing : Bool)
  | rejected (violation : Violation)
  | compiled (elements : Nat)
  | printed (file code : String)
deriving Repr, DecidableEq

inductive Field where
  | text (value : String)
  | number (value : Nat)
  | flag (value : Bool)
deriving Repr, DecidableEq

namespace Event

def level : Event → Level
  | .parsed .. | .compiling .. | .rejected _ | .compiled _ => .debug
  | .element .. | .printed .. => .trace

def message : Event → String
  | .parsed .. => "parsed template"
  | .compiling .. => "compiling template file"
  | .element .. => "transforming element"
  | .rejected _ => "policy violation"
  | .compiled _ => "template file compiled"
  | .printed .. => "compiled template"

/-- The named fields besides the message. -/
def fields : Event → List (String × Field)
  | .parsed file statements => [("file", .text file), ("statements", .number statements)]
  | .compiling statements roots mode =>
    [("statements", .number statements), ("roots", .number roots), ("mode", .text mode.text)]
  | .element tag attributes children selfClosing =>
    [("tag", .text tag), ("attributes", .number attributes), ("children", .number children),
      ("self_closing", .flag selfClosing)]
  | .rejected violation =>
    [("construct", .text violation.construct.text), ("start", .number violation.span.start),
      ("end", .number violation.span.stop)]
  | .compiled elements => [("elements", .number elements)]
  | .printed file code => [("file", .text file), ("code", .text code)]

end Event

end LogicFree
