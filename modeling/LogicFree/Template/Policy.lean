import LogicFree.Output.Basic
import LogicFree.Violation

/-! The policy: names, literals and dotted chains over names may be read,
everything else is refused. Each check returns the first violation it meets. -/

namespace LogicFree.Template

open Output (Reference)

/-- The construct that a module-level declaration is refused as. -/
def ModuleItem.construct : ModuleItem → Construct
  | .importDeclaration => .importDeclaration
  | .exportDefault => .exportDefault
  | .exportAll => .exportAll
  | .exportNamed => .exportNamed
  | .exportSpecifier => .exportSpecifier

/-- Refuses a module-level declaration and lets every other statement pass. -/
def Statement.checkModuleItem : Statement → Except Violation Unit
  | .moduleItem kind span => .error ⟨kind.construct, span⟩
  | .expression .. | .declaration _ | .empty _ | .unsupported .. => .ok ()

/-- Refuses the first module-level declaration of a statement list. -/
def checkModuleItems : List Statement → Except Violation Unit
  | [] => .ok ()
  | statement :: rest =>
    match statement.checkModuleItem with
    | .error violation => .error violation
    | .ok () => checkModuleItems rest

/-- Refuses the first module-level declaration of a file. -/
def Program.checkModuleItems (program : Program) : Except Violation Unit :=
  Template.checkModuleItems program.body

/-- A declarator has to bind a plain name. -/
def Binding.check : Binding → Except Violation String
  | .identifier name _ => .ok name
  | .pattern span => .error ⟨.destructuring, span⟩

def isLogicalOperator (operator : String) : Bool :=
  operator = "&&" || operator = "||" || operator = "??"

/-- Operators on two operands are refused as logical or as plain ones. -/
def binaryConstruct (operator : String) : Construct :=
  if isLogicalOperator operator then .logical operator else .binary operator

/-- Reads an expression as a plain reference. The property of a member is
looked at before its object, so an outer violation wins over an inner one. A
literal may be read, but nothing may be read off it. -/
def Expr.check : Expr → Except Violation Reference
  | .identifier name _ => .ok (.identifier name)
  | .literal value => .ok (.literal value)
  | .member _ (.computed _) span => .error ⟨.computedMember, span⟩
  | .member _ (.hidden span) _ => .error ⟨.privateMember, span⟩
  | .member (.literal value) (.named ..) _ =>
    .error ⟨.unsupported "member access on a literal", value.span⟩
  | .member object (.named name _) _ => object.check.map (.member · name)
  | .call span => .error ⟨.call, span⟩
  | .binary operator span => .error ⟨binaryConstruct operator, span⟩
  | .unary operator span => .error ⟨.unary operator, span⟩
  | .conditional span => .error ⟨.conditional, span⟩
  | .assignment span => .error ⟨.assignment, span⟩
  | .arrow span => .error ⟨.arrowFunction, span⟩
  | .template span => .error ⟨.templateLiteral, span⟩
  | .element inner => .error ⟨.unsupported "element in expression position", inner.span⟩
  | .unsupported kind span => .error ⟨.unsupported kind, span⟩

end LogicFree.Template
