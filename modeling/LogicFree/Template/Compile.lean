import LogicFree.Output.Key
import LogicFree.Pass
import LogicFree.Template.Policy

/-! From the tree of a template to the tree of its code: every element becomes
one constructor call, and everything else has to pass the policy. -/

namespace LogicFree.Template

open Output (Argument CreateCall Key)

/-- Text made of spaces, tabs and line ends only separates siblings and is no
content. -/
def isLayout (text : String) : Bool :=
  text.toList.all fun c => c = ' ' || c = '\t' || c = '\n' || c = '\r'

mutual

/-- The call for an element. The element counts as met even if the pass stops
inside it. -/
def Element.compile : Element → PassM CreateCall
  | ⟨name, attributes, children, selfClosing, span⟩ => do
    modify (Pass.log (.element name attributes.length children.length selfClosing))
    modify Pass.countElement
    let properties ← compileAttributes attributes
    let arguments ← compileChildren children
    return ⟨name, if attributes.isEmpty then none else some properties, arguments, span⟩

/-- An embedded expression: a nested element, or a read that passes the policy. -/
def Expr.compile : Expr → PassM (Option Argument)
  | .element inner => do return some (.create (← inner.compile))
  | expr => do return (← Pass.check expr.check).map .reference

/-- The value of a property. An attribute without a value is true. -/
def AttributeValue.compile : AttributeValue → PassM (Option Argument)
  | .absent => return some (.boolean true)
  | .text value _ => return some (.string value)
  | .expression expr => expr.compile
  | .empty span => do
    Pass.reject ⟨.unsupported "empty attribute expression", span⟩
    return none

/-- The properties of an attribute list, without those that were refused. -/
def compileAttributes : List Attribute → PassM (List Output.Property)
  | [] => return []
  | .spread span :: rest => do
    Pass.reject ⟨.spreadAttribute, span⟩
    compileAttributes rest
  | .named name value _ :: rest => do
    match ← value.compile with
    | some argument => return ⟨Key.ofName name, argument⟩ :: (← compileAttributes rest)
    | none => compileAttributes rest

/-- The argument for a child, if there is one. -/
def Child.compile : Child → PassM (Option Argument)
  | .text value _ => return if isLayout value then none else some (.string value)
  | .element inner => do return some (.create (← inner.compile))
  | .expression expr => expr.compile
  | .empty _ => return none
  | .unsupported kind span => do
    Pass.reject ⟨.unsupported kind, span⟩
    return none

/-- The arguments of a child list, without layout and without what was refused. -/
def compileChildren : List Child → PassM (List Argument)
  | [] => return []
  | child :: rest => do
    match ← child.compile with
    | some argument => return argument :: (← compileChildren rest)
    | none => compileChildren rest

end

/-- The declared names with their initializers. The initializer of a refused
binding is still looked at. -/
def compileDeclarators : List Declarator → PassM (List (String × Option Argument))
  | [] => return []
  | declarator :: rest => do
    let name ← Pass.check declarator.binding.check
    let init ← match declarator.init with
      | some expr => expr.compile
      | none => pure none
    match name with
    | some name => return (name, init) :: (← compileDeclarators rest)
    | none => compileDeclarators rest

/-- The code of a statement. Module-level declarations are refused before any
statement is compiled, so they are passed over here. -/
def Statement.compile : Statement → PassM (Option Output.Statement)
  | .moduleItem .. | .empty _ => return none
  | .expression expr _ => do return (← expr.compile).map .expression
  | .declaration decl => do
    return some (.declaration decl.kind (← compileDeclarators decl.declarators))
  | .unsupported kind span => do
    Pass.reject ⟨.statement kind, span⟩
    return none

def compileStatements : List Statement → PassM (List Output.Statement)
  | [] => return []
  | statement :: rest => do
    match ← statement.compile with
    | some output => return output :: (← compileStatements rest)
    | none => compileStatements rest

/-- Puts every module-level declaration through the pass. -/
def rejectModuleItems : List Statement → PassM Unit
  | [] => return ()
  | statement :: rest => do
    let _ ← Pass.check statement.checkModuleItem
    rejectModuleItems rest

/-- Module-level declarations are looked for in the whole file before anything
else, so one of them is reported even if an earlier element is at fault. -/
def Program.compileBody (program : Program) : PassM Output.Program := do
  match (← get).mode with
  | .first => liftExcept program.checkModuleItems
  | .collect => rejectModuleItems program.body
  return ⟨← compileStatements program.body⟩
where
  liftExcept : Except Violation Unit → PassM Unit
    | .ok () => pure ()
    | .error violation => throw violation

/-- Compiles a file and returns the log with the result. -/
def Program.compile (program : Program) (mode : Mode) :
    Except Failure Output.Program × Array Event :=
  let opening := Event.compiling program.body.length program.roots.length mode
  match Pass.step program.compileBody { mode, events := #[opening] } with
  | (.error failure, pass) => (.error failure, pass.events)
  | (.ok output, pass) =>
    match pass.finish with
    | .error failure => (.error failure, pass.events)
    | .ok () => (.ok output, pass.events.push (.compiled pass.elements))

end LogicFree.Template
