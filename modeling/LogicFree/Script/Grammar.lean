import LogicFree.Script.Parse
import LogicFree.Script.Tree

/-! The rules of the grammar call each other through one record, which stands
for the whole grammar one level of nesting further in. Each rule is then an
ordinary function, and only the record is recursive. -/

namespace LogicFree.Script

/-- What the surroundings of a construct allow. -/
structure Context where
  typed : Bool
  /-- Whether the word `in` is an operator here. -/
  allowIn : Bool := true
  /-- Where an arrow function may begin. -/
  arrowAt : Option Nat := none
  returns : Bool := false
  newTarget : Bool := false
  yields : Bool := false
  awaits : Bool := true
  breaks : Bool := false
  continues : Bool := false
  labels : List String := []
  superAllowed : Bool := false
  /-- Whether everything around only describes what is defined elsewhere. -/
  ambient : Bool := false
  /-- Whether only a single statement, and no declaration, may stand here. -/
  single : Bool := false

namespace Context

/-- Inside brackets of any kind the word `in` is an operator again. -/
def bracketed (context : Context) : Context := { context with allowIn := true, arrowAt := none }

def function (context : Context) (async generator method : Bool) : Context where
  typed := context.typed
  returns := true
  newTarget := true
  awaits := async
  yields := generator
  superAllowed := method
  ambient := context.ambient

/-- The inside of an arrow function, which keeps the meaning of `super`. -/
def arrow (context : Context) (async : Bool) : Context where
  typed := context.typed
  allowIn := context.allowIn
  returns := true
  newTarget := context.newTarget
  awaits := async
  superAllowed := context.superAllowed

def loop (context : Context) : Context :=
  { context with breaks := true, continues := true, single := true, allowIn := true }

def list (context : Context) : Context := { context with single := false, allowIn := true }

end Context

/-- An expression together with the other readings that its text allows. -/
structure Operand where
  expr : Expr
  /-- It may be assigned to or counted up. -/
  simple : Bool := false
  /-- It is an array or object literal that may be read as an assignment pattern. -/
  pattern : Bool := false
  /-- It may stand inside an assignment pattern. -/
  slot : Bool := false
  /-- It may stand in a parameter list. -/
  parameter : Bool := false
  /-- It makes sense only as a pattern or a parameter. -/
  pending : Bool := false
  /-- It is an arrow function, after which no operator can follow. -/
  closed : Bool := false

def Expr.operand (expr : Expr) : Operand := { expr }

/-- Something that may be assigned to, and is not a name. -/
def Expr.place (expr : Expr) : Operand := { expr, simple := true, slot := true }

inductive Markup where
  | element (element : Element)
  | fragment (span : Span)

variable {source : List Char}

/-- The grammar one level further in. -/
structure Grammar (source : List Char) where
  /-- Operands joined by operators that bind at least as tightly as given. -/
  binary : Context → (precedence : Nat) → Parse source Operand
  unary : Context → Parse source Operand
  /-- A primary expression with what is read off it, calls included or not. -/
  access : Context → (calls : Bool) → Parse source Operand
  assignment : Context → Parse source Operand
  binding : Context → Parse source Binding
  statement : Context → Parse source Statement
  moduleItem : Context → Parse source Statement
  type : Context → Parse source Unit
  /-- Markup whose opening bracket, at the given place, has been passed. The input
  after its last bracket is not split into tokens, because it may be text. -/
  markup : Context → (start : Nat) → Parse source (Markup × Place source)

/-- A grammar that reads nothing. -/
def Grammar.exhausted : Grammar source where
  binary _ _ := Parse.unexpected
  unary _ := Parse.unexpected
  access _ _ := Parse.unexpected
  assignment _ := Parse.unexpected
  binding _ := Parse.unexpected
  statement _ := Parse.unexpected
  moduleItem _ := Parse.unexpected
  type _ := Parse.unexpected
  markup _ _ := Parse.unexpected

namespace Grammar

open Parse

def plain (operand : Operand) : Parse source Expr := do
  require !operand.pending
  return operand.expr

/-- An expression that holds no comma of its own. -/
def single (g : Grammar source) (context : Context) : Parse source Expr := do
  plain (← g.assignment context)

/-- An expression, or several with commas between them. -/
def expression (g : Grammar source) (context : Context) : Parse source Expr := do
  let start ← start
  let first ← g.single context
  if !(← isMark ",") then return first
  whileDo do
    if ← eatMark "," then
      let _ ← g.single context
      return true
    else return false
  return .other .sequence (← spanFrom start)

/-- A bracketed list of statements. Its opening brace has been passed. -/
def statements (g : Grammar source) (context : Context) : Parse source (List Statement) := do
  let body ← repeated (fun body => do
    if (← isMark "\x7d") || (← token) == .finish then return none
    return some ((← g.statement context.list) :: body)) []
  return body.reverse

def block (g : Grammar source) (context : Context) : Parse source Unit := do
  expectMark "\x7b"
  let _ ← g.statements context
  expectMark "\x7d"

end Grammar

end LogicFree.Script
