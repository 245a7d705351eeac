import LogicFree.Output.Basic
import LogicFree.Text.Quoted

/-! The text of a compiled file: one statement a line, each closed by a
semicolon. -/

namespace LogicFree.Output

/-- The name under which the constructor is found. -/
def constructorRoot : String := "Easley"

/-- The constructor that every element becomes a call of. -/
def constructorPath : String := constructorRoot ++ ".Jet.create"

def booleanText (value : Bool) : String := if value then "true" else "false"

def Reference.print : Reference → String
  | .identifier name => name
  | .literal (.string value _) => quote value
  | .literal (.number _ raw _) => raw
  | .literal (.boolean value _) => booleanText value
  | .member object property => object.print ++ "." ++ property

def Key.print : Key → String
  | .bare name => name
  | .quoted name => quote name

mutual

def Argument.print : Argument → String
  | .string value => quote value
  | .boolean value => booleanText value
  | .reference reference => reference.print
  | .create call => call.print

def CreateCall.print : CreateCall → String
  | ⟨tag, attributes, children, _⟩ =>
    constructorPath ++ "(" ++ quote tag ++ ", " ++ printAttributes attributes ++
      printChildren children ++ ")"

def printAttributes : Option (List Property) → String
  | none => "null"
  | some [] => "\x7b\x7d"
  | some (first :: rest) => "\x7b " ++ first.print ++ printProperties rest ++ " \x7d"

def Property.print : Property → String
  | ⟨key, value⟩ => key.print ++ ": " ++ value.print

/-- Every property that is not the first, each after a comma. -/
def printProperties : List Property → String
  | [] => ""
  | property :: rest => ", " ++ property.print ++ printProperties rest

/-- Every child argument, each after a comma. -/
def printChildren : List Argument → String
  | [] => ""
  | child :: rest => ", " ++ child.print ++ printChildren rest

end

/-- A declared name with its initializer, if it has one. -/
def printDeclarator : String × Option Argument → String
  | (name, none) => name
  | (name, some init) => name ++ " = " ++ init.print

/-- Every declarator that is not the first, each after a comma. -/
def printFurther : List (String × Option Argument) → String
  | [] => ""
  | declarator :: rest => ", " ++ printDeclarator declarator ++ printFurther rest

def printDeclarators : List (String × Option Argument) → String
  | [] => ""
  | first :: rest => printDeclarator first ++ printFurther rest

def Statement.print : Statement → String
  | .expression argument => argument.print
  | .declaration kind declarators => kind.text ++ " " ++ printDeclarators declarators

def printStatements : List Statement → String
  | [] => ""
  | statement :: rest => statement.print ++ ";\n" ++ printStatements rest

def Program.print (program : Program) : String :=
  printStatements program.body

end LogicFree.Output
