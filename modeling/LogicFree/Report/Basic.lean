import LogicFree.Failure
import LogicFree.Report.Location
import LogicFree.Text.Lines

/-! Failures with their source context: a headline, the place, the source line
with a caret under the place, and a hint. -/

namespace LogicFree

/-- What stops the program where it should answer. -/
inductive Panic where
  /-- A width that is known only at run time is out of range. -/
  | formatWidth
deriving Repr, DecidableEq

/-- What is to be shown about one place of a source, the end of it at most. -/
structure Report where
  message : String
  source : String
  /-- A byte offset. -/
  position : Nat
  filename : String
  annotation : String
  help : Option String
  within : position ≤ source.utf8ByteSize

namespace Report

/-- A report about a byte offset. Beyond the end of the source it is about the end. -/
def new (message source : String) (offset : Nat) (filename annotation : String)
    (help : Option String) : Report where
  message := message
  source := source
  position := min offset source.utf8ByteSize
  filename := filename
  annotation := annotation
  help := help
  within := Nat.min_le_right ..

/-- The widest indentation that a caret can be given. -/
def maxIndent : Nat := 65535

def location (report : Report) : Location :=
  .ofOffset report.source report.position

/-- The source line that the place lies on. The end of a source that closes its
last line lies on none. -/
def sourceLine? (report : Report) : Option (List Char) :=
  (Text.lines report.source.toList)[report.location.line - 1]?

/-- The columns that the text before the place takes up. -/
def indent (report : Report) (line : List Char) : Nat :=
  Text.totalWidth (line.take (report.location.column - 1))

/-- The blank margin as wide as the line number. -/
def gutter (report : Report) : List Char :=
  List.replicate (toString report.location.line).length ' '

/-- The line number and the source line, its tabs widened. -/
def sourceRow (report : Report) (line : List Char) : List Char :=
  (toString report.location.line).toList ++ [' ', '|', ' '] ++ Text.trimEnd (Text.expandTabs line)

def caretRow (report : Report) (line : List Char) : List Char :=
  Text.trimEnd (report.gutter ++ [' ', '|', ' '] ++ List.replicate (report.indent line) ' ' ++
    ['^', ' '] ++ report.annotation.toList)

/-- The three rows of source context. Laying them out panics if the caret stands too far to
the right. -/
def context (report : Report) (line : List Char) : Except Panic String :=
  if report.indent line ≤ maxIndent then
    .ok (String.ofList (report.gutter ++ [' ', '|', '\n']) ++
      String.ofList (report.sourceRow line ++ ['\n']) ++
      String.ofList (report.caretRow line ++ ['\n']))
  else .error .formatWidth

def headline (report : Report) : String :=
  "error: " ++ report.message ++ "\n" ++
    " --> " ++ report.filename ++ ":" ++ toString report.location.line ++ ":" ++
    toString report.location.column ++ "\n"

def hint (report : Report) : String :=
  match report.help with
  | some help => "help: " ++ help ++ "\n"
  | none => ""

/-- The whole report. -/
def format (report : Report) : Except Panic String :=
  match report.sourceLine? with
  | none => .ok (report.headline ++ report.hint)
  | some line => (report.context line).map fun context =>
      report.headline ++ context ++ report.hint

end Report

/-- The hint that goes with every violation. -/
def policyHelp : String :=
  "templates may only contain elements, attributes, literals and member reads"

def Violation.report (violation : Violation) (source filename : String) : Report :=
  .new logicFreeMessage source violation.span.start filename violation.construct.text
    (some policyHelp)

namespace Failure

/-- A source that could not be read. Its place is resolved at once. -/
def ofDiagnostic (diagnostic source : String) (span : Span) : Failure :=
  let location := Location.ofOffset source span.start
  .malformed diagnostic location.line location.column span

/-- The reports of a failure, one for each violation. -/
def reports (failure : Failure) (source filename : String) : List Report :=
  match failure with
  | .malformed diagnostic _ _ span =>
    [.new "Unexpected token" source span.start filename diagnostic none]
  | .policy violations => violations.map (·.report source filename)

/-- The failure with its source context, a blank line between two reports. -/
def render (failure : Failure) (source filename : String) : Except Panic String :=
  ((failure.reports source filename).mapM Report.format).map (String.intercalate "\n")

end Failure

end LogicFree
