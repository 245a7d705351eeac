import LogicFree.Template.Basic

/-! The tree of a compiled file: nested constructor calls over texts, booleans
and plain reads. Nothing in it can hold an operator, a function or any other
call, so each of its values is free of logic. -/

namespace LogicFree.Output

open Template (Literal VariableKind)

/-- A plain read of data: a name, a literal or a chain of property names. -/
inductive Reference where
  | identifier (name : String)
  | literal (value : Literal)
  | member (object : Reference) (property : String)
deriving Repr, DecidableEq

/-- The dotted path of a name or a chain. A chain over a literal has none. -/
def Reference.path : Reference → Option String
  | .identifier name => some name
  | .literal _ => none
  | .member object property => object.path.map (· ++ "." ++ property)

/-- A property key, written bare or between quotes. -/
inductive Key where
  | bare (name : String)
  | quoted (name : String)
deriving Repr, DecidableEq

def Key.name : Key → String
  | .bare name => name
  | .quoted name => name

mutual

inductive Argument where
  | string (value : String)
  | boolean (value : Bool)
  | reference (reference : Reference)
  | create (call : CreateCall)

/-- One constructor call. Without attributes the second argument is `null`. -/
structure CreateCall where
  tag : String
  attributes : Option (List Property)
  children : List Argument
  span : Span

structure Property where
  key : Key
  value : Argument

end

/-- The number of arguments that the printed call has. -/
def CreateCall.arity (call : CreateCall) : Nat :=
  2 + call.children.length

inductive Statement where
  | expression (argument : Argument)
  | declaration (kind : VariableKind) (declarators : List (String × Option Argument))

structure Program where
  body : List Statement

end LogicFree.Output
