import LogicFree.Output.Printer
import LogicFree.Text.Blank

/-! Two notions on compiled code. Well-formed code keeps its bare tokens apart from
the marks around them. The essence of code is what its text can tell: it has no
spans and no numeric values, and a text or boolean is the same as an argument and
as a literal read. -/

namespace LogicFree.Output

/-- The marks of the code, besides the dot. -/
def isMark (c : Char) : Bool :=
  ['\x22', ',', ';', ':', '=', '(', ')', '\x7b', '\x7d'].contains c

/-- Bare words hold neither blanks nor marks, but numbers and chains hold dots. -/
def isWordChar (c : Char) : Bool := !Text.isBlank c && !isMark c

def isNameChar (c : Char) : Bool := isWordChar c && c ≠ '.'

/-- A name begins with no digit. -/
def isName (text : String) : Bool :=
  match text.toList with
  | [] => false
  | first :: rest => !first.isDigit && (first :: rest).all isNameChar

/-- A number begins with a digit or a dot. -/
def isNumberText (text : String) : Bool :=
  match text.toList with
  | [] => false
  | first :: rest => (first.isDigit || first = '.') && (first :: rest).all isWordChar

/-- A chain is rooted at an identifier. -/
def Reference.isChain : Reference → Bool
  | .identifier _ => true
  | .literal _ => false
  | .member object _ => object.isChain

def Reference.wellFormed : Reference → Bool
  | .identifier name => isName name && name ≠ "true" && name ≠ "false"
  | .literal (.number _ raw _) => isNumberText raw
  | .literal (.string ..) | .literal (.boolean ..) => true
  | .member object property => object.isChain && object.wellFormed && isName property

def Key.wellFormed : Key → Bool
  | .bare name => isName name
  | .quoted _ => true

mutual

def Argument.wellFormed : Argument → Bool
  | .string _ | .boolean _ => true
  | .reference reference => reference.wellFormed
  | .create call => call.wellFormed

def CreateCall.wellFormed : CreateCall → Bool
  | ⟨_, attributes, children, _⟩ => attributesWellFormed attributes && childrenWellFormed children

def attributesWellFormed : Option (List Property) → Bool
  | none => true
  | some properties => propertiesWellFormed properties

def Property.wellFormed : Property → Bool
  | ⟨key, value⟩ => key.wellFormed && value.wellFormed

def propertiesWellFormed : List Property → Bool
  | [] => true
  | property :: rest => property.wellFormed && propertiesWellFormed rest

def childrenWellFormed : List Argument → Bool
  | [] => true
  | child :: rest => child.wellFormed && childrenWellFormed rest

end

theorem propertiesWellFormed_eq (properties : List Property) :
    propertiesWellFormed properties = properties.all Property.wellFormed := by
  induction properties with
  | nil => rw [propertiesWellFormed, List.all_nil]
  | cons property rest ih => rw [propertiesWellFormed, List.all_cons, ih]

theorem childrenWellFormed_eq (children : List Argument) :
    childrenWellFormed children = children.all Argument.wellFormed := by
  induction children with
  | nil => rw [childrenWellFormed, List.all_nil]
  | cons child rest ih => rw [childrenWellFormed, List.all_cons, ih]

def declaratorWellFormed : String × Option Argument → Bool
  | (name, none) => isName name
  | (name, some init) => isName name && init.wellFormed

def Statement.wellFormed : Statement → Bool
  | .expression argument => argument.wellFormed
  | .declaration _ declarators => declarators.all declaratorWellFormed

def Program.wellFormed (program : Program) : Bool :=
  program.body.all Statement.wellFormed

def Reference.essence : Reference → Reference
  | .identifier name => .identifier name
  | .literal (.string value _) => .literal (.string value {})
  | .literal (.number _ raw _) => .literal (.number 0 raw {})
  | .literal (.boolean value _) => .literal (.boolean value {})
  | .member object property => .member object.essence property

mutual

def Argument.essence : Argument → Argument
  | .string value => .string value
  | .boolean value => .boolean value
  | .reference (.literal (.string value _)) => .string value
  | .reference (.literal (.boolean value _)) => .boolean value
  | .reference reference => .reference reference.essence
  | .create call => .create call.essence

def CreateCall.essence : CreateCall → CreateCall
  | ⟨tag, attributes, children, _⟩ =>
    ⟨tag, essenceOfAttributes attributes, essenceOfChildren children, {}⟩

def essenceOfAttributes : Option (List Property) → Option (List Property)
  | none => none
  | some properties => some (essenceOfProperties properties)

def Property.essence : Property → Property
  | ⟨key, value⟩ => ⟨key, value.essence⟩

def essenceOfProperties : List Property → List Property
  | [] => []
  | property :: rest => property.essence :: essenceOfProperties rest

def essenceOfChildren : List Argument → List Argument
  | [] => []
  | child :: rest => child.essence :: essenceOfChildren rest

end

theorem essenceOfProperties_eq (properties : List Property) :
    essenceOfProperties properties = properties.map Property.essence := by
  induction properties with
  | nil => rw [essenceOfProperties, List.map_nil]
  | cons property rest ih => rw [essenceOfProperties, List.map_cons, ih]

theorem essenceOfChildren_eq (children : List Argument) :
    essenceOfChildren children = children.map Argument.essence := by
  induction children with
  | nil => rw [essenceOfChildren, List.map_nil]
  | cons child rest ih => rw [essenceOfChildren, List.map_cons, ih]

def essenceOfDeclarator : String × Option Argument → String × Option Argument
  | (name, init) => (name, init.map Argument.essence)

def Statement.essence : Statement → Statement
  | .expression argument => .expression argument.essence
  | .declaration kind declarators => .declaration kind (declarators.map essenceOfDeclarator)

def Program.essence (program : Program) : Program :=
  ⟨program.body.map Statement.essence⟩

theorem Reference.print_essence (reference : Reference) :
    reference.essence.print = reference.print := by
  induction reference with
  | identifier name => rfl
  | literal value => cases value <;> rfl
  | member object property ih => simp only [essence, print, ih]

mutual

theorem Argument.print_essence : (argument : Argument) → argument.essence.print = argument.print
  | .string _ | .boolean _ => by simp only [Argument.essence]
  | .reference (.literal (.string ..)) | .reference (.literal (.boolean ..)) => by
    simp only [Argument.essence, Argument.print, Reference.print]
  | .reference (.literal (.number ..)) | .reference (.identifier _) | .reference (.member ..) => by
    simp only [Argument.essence, Argument.print, Reference.print_essence]
  | .create call => by simp only [Argument.essence, Argument.print, call.print_essence]

theorem CreateCall.print_essence : (call : CreateCall) → call.essence.print = call.print
  | ⟨tag, attributes, children, _⟩ => by
    simp only [CreateCall.essence, CreateCall.print, printAttributes_essence attributes,
      printChildren_essence children]

private theorem printAttributes_essence : (attributes : Option (List Property)) →
    printAttributes (essenceOfAttributes attributes) = printAttributes attributes
  | none => by rw [essenceOfAttributes]
  | some [] => by rw [essenceOfAttributes, essenceOfProperties]
  | some (first :: rest) => by
    simp only [essenceOfAttributes, essenceOfProperties, printAttributes, first.print_essence,
      printProperties_essence rest]

theorem Property.print_essence : (property : Property) → property.essence.print = property.print
  | ⟨key, value⟩ => by simp only [Property.essence, Property.print, value.print_essence]

private theorem printProperties_essence : (properties : List Property) →
    printProperties (essenceOfProperties properties) = printProperties properties
  | [] => by rw [essenceOfProperties]
  | property :: rest => by
    simp only [essenceOfProperties, printProperties, property.print_essence, printProperties_essence rest]

private theorem printChildren_essence : (children : List Argument) →
    printChildren (essenceOfChildren children) = printChildren children
  | [] => by rw [essenceOfChildren]
  | child :: rest => by
    simp only [essenceOfChildren, printChildren, child.print_essence, printChildren_essence rest]

end

private theorem printDeclarator_essence (declarator : String × Option Argument) :
    printDeclarator (essenceOfDeclarator declarator) = printDeclarator declarator := by
  obtain ⟨name, _ | init⟩ := declarator
  · rfl
  · simp only [essenceOfDeclarator, Option.map_some, printDeclarator, init.print_essence]

private theorem printFurther_essence (declarators : List (String × Option Argument)) :
    printFurther (declarators.map essenceOfDeclarator) = printFurther declarators := by
  induction declarators with
  | nil => rfl
  | cons declarator rest ih => simp only [List.map_cons, printFurther, printDeclarator_essence, ih]

theorem Statement.print_essence (statement : Statement) :
    statement.essence.print = statement.print := by
  cases statement with
  | expression argument => exact argument.print_essence
  | declaration kind declarators =>
    cases declarators with
    | nil => rfl
    | cons first rest =>
      simp only [essence, List.map_cons, print, printDeclarators, printDeclarator_essence, printFurther_essence]

/-- The essence has the same text. -/
theorem Program.print_essence (program : Program) : program.essence.print = program.print := by
  obtain ⟨body⟩ := program
  simp only [Program.essence, Program.print]
  induction body with
  | nil => rfl
  | cons statement rest ih => simp only [List.map_cons, printStatements, statement.print_essence, ih]

end LogicFree.Output
