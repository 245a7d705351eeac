import LogicFree.Template.Compile
import LogicFree.Output.Printer
import LogicFree.Report.Basic
import LogicFree.Script.Reader
import LogicFree.Script.ToTemplate

/-! The compiler from source text to printed code, over a reader of the script language. -/

namespace LogicFree

structure Config where
  dialect : Script.Dialect := .jsx
  mode : Mode := .first
  /-- The name shown in reports and in the log. -/
  filename : String := "template.jsx"

variable (reader : Script.Reader)

/-- The template of a source. Its spellings are cut out of the source as it was handed in. -/
def parse (config : Config) (source : String) : Except Failure Template.Program × Array Event :=
  match reader config.dialect source with
  | .error complaint => (.error (.ofDiagnostic complaint.diagnostic source complaint.span), #[])
  | .ok script =>
    let program := script.toTemplate source
    (.ok program, #[.parsed config.filename program.body.length])

/-- Compiles a source, and returns the log with the code or the failure. -/
def compile (config : Config) (source : String) : Except Failure String × Array Event :=
  match parse reader config source with
  | (.error failure, events) => (.error failure, events)
  | (.ok program, events) =>
    match program.compile config.mode with
    | (.error failure, more) => (.error failure, events ++ more)
    | (.ok output, more) =>
      let code := output.print
      (.ok code, events ++ more ++ #[.printed config.filename code])

end LogicFree
