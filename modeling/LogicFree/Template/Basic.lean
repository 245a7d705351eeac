import LogicFree.Span

/-! The tree of a template file. It names the shapes that the policy tells
apart. Any other shape of the surrounding language arrives as `unsupported`
together with a word for what it was. -/

namespace LogicFree.Template

/-- The module-level declarations. A template may hold none of them. -/
inductive ModuleItem where
  | importDeclaration
  | exportDefault
  | exportAll
  | exportNamed
  | exportSpecifier
deriving Repr, DecidableEq

/-- The three words that open a variable declaration. -/
inductive VariableKind where
  | var
  | lexical
  | constant
deriving Repr, DecidableEq

def VariableKind.text : VariableKind → String
  | .var => "var"
  | .lexical => "let"
  | .constant => "const"

/-- A literal value. A number keeps its spelling, which is what is printed, and
the bits of its IEEE 754 double value. -/
inductive Literal where
  | string (value : String) (span : Span)
  | number (bits : UInt64) (raw : String) (span : Span)
  | boolean (value : Bool) (span : Span)
deriving Repr, DecidableEq

def Literal.span : Literal → Span
  | .string _ span => span
  | .number _ _ span => span
  | .boolean _ span => span

mutual

/-- An expression. The shapes that exist only to be rejected carry no operands. -/
inductive Expr where
  | identifier (name : String) (span : Span)
  | literal (value : Literal)
  | member (object : Expr) (property : Property) (span : Span)
  | call (span : Span)
  | binary (operator : String) (span : Span)
  | unary (operator : String) (span : Span)
  | conditional (span : Span)
  | assignment (span : Span)
  | arrow (span : Span)
  | template (span : Span)
  | element (element : Element)
  | unsupported (kind : String) (span : Span)

/-- What stands after the object of a member access: `.name`, `[index]` or `.#name`. -/
inductive Property where
  | named (name : String) (span : Span)
  | computed (index : Expr)
  | hidden (span : Span)

/-- A markup element. Its name is kept as written, namespace included. -/
structure Element where
  name : String
  attributes : List Attribute
  children : List Child
  selfClosing : Bool
  span : Span

inductive Attribute where
  | named (name : String) (value : AttributeValue) (span : Span)
  | spread (span : Span)

/-- The value of an attribute: none at all, a quoted text, an expression in
braces, or braces around nothing. -/
inductive AttributeValue where
  | absent
  | text (value : String) (span : Span)
  | expression (expr : Expr)
  | empty (span : Span)

/-- What stands between the tags of an element. -/
inductive Child where
  | text (value : String) (span : Span)
  | element (element : Element)
  | expression (expr : Expr)
  | empty (span : Span)
  | unsupported (kind : String) (span : Span)

end

/-- The left side of a declarator. The inside of a pattern is not kept. -/
inductive Binding where
  | identifier (name : String) (span : Span)
  | pattern (span : Span)
deriving Repr, DecidableEq

structure Declarator where
  binding : Binding
  init : Option Expr
  span : Span

structure Declaration where
  kind : VariableKind
  declarators : List Declarator
  span : Span

inductive Statement where
  | moduleItem (kind : ModuleItem) (span : Span)
  | expression (expr : Expr) (span : Span)
  | declaration (decl : Declaration)
  | empty (span : Span)
  | unsupported (kind : String) (span : Span)

structure Program where
  body : List Statement
  span : Span

/-- The expressions that a statement holds directly. -/
def Statement.sites : Statement → List Expr
  | .expression expr _ => [expr]
  | .declaration decl => decl.declarators.filterMap (·.init)
  | .moduleItem .. | .empty _ | .unsupported .. => []

/-- The element that an expression is. -/
def Expr.element? : Expr → Option Element
  | .element inner => some inner
  | _ => none

/-- The elements that stand directly at an expression statement or as the
initializer of a declarator. -/
def Program.roots (program : Program) : List Element :=
  program.body.flatMap fun statement => statement.sites.filterMap Expr.element?

end LogicFree.Template
