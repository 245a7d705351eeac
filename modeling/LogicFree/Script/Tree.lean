import LogicFree.Template.Basic

/-! The tree of a source file in the surrounding script language. It keeps what
a template can be made of in full, and of everything else the kind and the
place. Parentheses stay in the tree. -/

namespace LogicFree.Script

/-- The two dialects of the script language. Both have markup, one has types. -/
inductive Dialect where
  | jsx
  | tsx
deriving Repr, DecidableEq

inductive BinaryOperator where
  | equal
  | notEqual
  | identical
  | notIdentical
  | less
  | lessEqual
  | greater
  | greaterEqual
  | shiftLeft
  | shiftRight
  | shiftRightZero
  | add
  | subtract
  | multiply
  | divide
  | remainder
  | bitOr
  | bitXor
  | bitAnd
  | logicalOr
  | logicalAnd
  | membership
  | instanceOf
  | power
  | coalesce
deriving Repr, DecidableEq

def BinaryOperator.text : BinaryOperator → String
  | .equal => "=="
  | .notEqual => "!="
  | .identical => "==="
  | .notIdentical => "!=="
  | .less => "<"
  | .lessEqual => "<="
  | .greater => ">"
  | .greaterEqual => ">="
  | .shiftLeft => "<<"
  | .shiftRight => ">>"
  | .shiftRightZero => ">>>"
  | .add => "+"
  | .subtract => "-"
  | .multiply => "*"
  | .divide => "/"
  | .remainder => "%"
  | .bitOr => "|"
  | .bitXor => "^"
  | .bitAnd => "&"
  | .logicalOr => "||"
  | .logicalAnd => "&&"
  | .membership => "in"
  | .instanceOf => "instanceof"
  | .power => "**"
  | .coalesce => "??"

def BinaryOperator.all : List BinaryOperator :=
  [.equal, .notEqual, .identical, .notIdentical, .less, .lessEqual, .greater, .greaterEqual,
    .shiftLeft, .shiftRight, .shiftRightZero, .add, .subtract, .multiply, .divide, .remainder,
    .bitOr, .bitXor, .bitAnd, .logicalOr, .logicalAnd, .membership, .instanceOf, .power,
    .coalesce]

def BinaryOperator.precedence : BinaryOperator → Nat
  | .coalesce => 1
  | .logicalOr => 1
  | .logicalAnd => 2
  | .bitOr => 3
  | .bitXor => 4
  | .bitAnd => 5
  | .equal | .notEqual | .identical | .notIdentical => 6
  | .less | .lessEqual | .greater | .greaterEqual | .membership | .instanceOf => 7
  | .shiftLeft | .shiftRight | .shiftRightZero => 8
  | .add | .subtract => 9
  | .multiply | .divide | .remainder => 10
  | .power => 11

/-- The operators written before or after their single operand. -/
inductive UnaryOperator where
  | minus
  | plus
  | not
  | complement
  | typeOf
  | discard
  | delete
  | increment
  | decrement
deriving Repr, DecidableEq

def UnaryOperator.text : UnaryOperator → String
  | .minus => "-"
  | .plus => "+"
  | .not => "!"
  | .complement => "~"
  | .typeOf => "typeof"
  | .discard => "void"
  | .delete => "delete"
  | .increment => "++"
  | .decrement => "--"

/-- The expressions of which only the kind and the place are kept. -/
inductive ExprForm where
  | thisValue
  | nullValue
  | bigint
  | regex
  | array
  | object
  | functionValue
  | classValue
  | instantiation
  | sequence
  | superProperty
  | yieldValue
  | awaitValue
  | metaProperty
  | optionalChain
  | fragment
  | privateName
  | typeExpression
  | call
  | conditional
  | assignment
  | arrow
  | template
  | taggedTemplate
  /-- Text between tags, a dotted or namespaced tag name, and empty braces, where they
  do not belong to an element. -/
  | markupText
  | markupMember
  | markupNamespace
  | markupEmpty
  /-- A place that could not be read. -/
  | invalid
deriving Repr, DecidableEq

/-- The name of an element: plain, with a namespace, or dotted. The parts of a
dotted name are kept beside the place from which its text is taken. -/
inductive TagName where
  | plain (name : String) (span : Span)
  | namespaced (space name : String) (span : Span)
  | dotted (parts : List String) (span : Span)
deriving Repr, DecidableEq

def TagName.span : TagName → Span
  | .plain _ span => span
  | .namespaced _ _ span => span
  | .dotted _ span => span

/-- A name without the blanks and comments between its parts. -/
def TagName.text : TagName → String
  | .plain name _ => name
  | .namespaced space name _ => space ++ ":" ++ name
  | .dotted parts _ => String.intercalate "." parts

/-- The name of an attribute, with a namespace or without. -/
inductive AttributeName where
  | plain (name : String)
  | namespaced (space name : String)
deriving Repr, DecidableEq

mutual

inductive Expr where
  | identifier (name : String) (span : Span)
  /-- A string that ends up with half a surrogate pair has no value. -/
  | string (value : Option String) (span : Span)
  | number (bits : UInt64) (span : Span)
  | boolean (value : Bool) (span : Span)
  | paren (inner : Expr) (span : Span)
  | member (object : Expr) (property : Property) (span : Span)
  | binary (operator : BinaryOperator) (span : Span)
  | unary (operator : UnaryOperator) (span : Span)
  | element (element : Element)
  | other (form : ExprForm) (span : Span)

inductive Property where
  | named (name : String) (span : Span)
  | computed (index : Expr)
  | hidden (span : Span)

structure Element where
  name : TagName
  attributes : List Attribute
  children : List Child
  selfClosing : Bool
  span : Span

inductive Attribute where
  | named (name : AttributeName) (value : AttributeValue) (span : Span)
  /-- The place is that of the dots and the expression, without the braces. -/
  | spread (span : Span)

inductive AttributeValue where
  | absent
  | string (value : Option String) (span : Span)
  | expression (expr : Expr)
  | empty (span : Span)
  | element (element : Element)
  | fragment (span : Span)

inductive Child where
  | text (value : String) (span : Span)
  | expression (expr : Expr)
  | empty (span : Span)
  | element (element : Element)
  | fragment (span : Span)
  | spread (span : Span)

end

def Expr.span : Expr → Span
  | .identifier _ span => span
  | .string _ span => span
  | .number _ span => span
  | .boolean _ span => span
  | .paren _ span => span
  | .member _ _ span => span
  | .binary _ span => span
  | .unary _ span => span
  | .element inner => inner.span
  | .other _ span => span

inductive Binding where
  | identifier (name : String) (span : Span)
  | pattern (span : Span)
deriving Repr, DecidableEq

def Binding.span : Binding → Span
  | .identifier _ span => span
  | .pattern span => span

structure Declarator where
  binding : Binding
  init : Option Expr
  span : Span

inductive ModuleForm where
  | importNames
  | importAlias
  | exportDefault
  | exportAssignment
  | exportAll
  | exportFrom
  | exportNames
  | exportDeclaration
  | exportNamespace
deriving Repr, DecidableEq

/-- The statements of which only the kind and the place are kept. -/
inductive StatementForm where
  | block
  | debugger
  | withScope
  | returnFrom
  | labeled
  | breakFrom
  | continueWith
  | ifElse
  | switchCase
  | throwError
  | tryCatch
  | whileLoop
  | doWhileLoop
  | forLoop
  | functionDeclaration
  | classDeclaration
  | usingDeclaration
  | typeDeclaration
deriving Repr, DecidableEq

inductive Statement where
  | moduleItem (form : ModuleForm) (span : Span)
  | expression (expr : Expr) (span : Span)
  /-- An ambient declaration describes a name that is defined elsewhere. -/
  | declaration (ambient : Bool) (kind : Template.VariableKind) (declarators : List Declarator)
      (span : Span)
  | empty (span : Span)
  | other (form : StatementForm) (span : Span)

/-- A statement that begins earlier than it was read. -/
def Statement.startingAt (start : Nat) : Statement → Statement
  | .moduleItem form span => .moduleItem form ⟨start, span.stop⟩
  | .expression expr span => .expression expr ⟨start, span.stop⟩
  | .declaration ambient kind declarators span =>
    .declaration ambient kind declarators ⟨start, span.stop⟩
  | .empty span => .empty ⟨start, span.stop⟩
  | .other form span => .other form ⟨start, span.stop⟩

structure Program where
  body : List Statement
  span : Span

end LogicFree.Script
