import LogicFree.Span

/-! What a template may not hold, and where it was found. -/

namespace LogicFree

/-- The shape that the policy refused. -/
inductive Construct where
  | importDeclaration
  | exportDefault
  | exportAll
  | exportNamed
  | exportSpecifier
  | statement (kind : String)
  | destructuring
  | call
  | binary (operator : String)
  | logical (operator : String)
  | unary (operator : String)
  | conditional
  | assignment
  | arrowFunction
  | templateLiteral
  | computedMember
  | privateMember
  | spreadAttribute
  | unsupported (kind : String)
deriving Repr, DecidableEq

def Construct.text : Construct → String
  | .importDeclaration => "import declaration"
  | .exportDefault => "export default declaration"
  | .exportAll => "export all declaration"
  | .exportNamed => "named export declaration"
  | .exportSpecifier => "re-export declaration"
  | .statement kind => kind ++ " statement"
  | .destructuring => "destructuring binding"
  | .call => "call expression"
  | .binary operator => "`" ++ operator ++ "` operator"
  | .logical operator => "logical `" ++ operator ++ "` operator"
  | .unary operator => "`" ++ operator ++ "` operator"
  | .conditional => "conditional expression"
  | .assignment => "assignment"
  | .arrowFunction => "arrow function"
  | .templateLiteral => "template literal"
  | .computedMember => "computed member access"
  | .privateMember => "private member access"
  | .spreadAttribute => "spread attribute"
  | .unsupported kind => kind

/-- One refused node and its place in the source. -/
structure Violation where
  construct : Construct
  span : Span
deriving Repr, DecidableEq

end LogicFree
