import LogicFree.Script.Expression

/-! Statements and declarations. -/

namespace LogicFree.Script.Grammar

open Parse

variable {source : List Char}

/-- A statement of which only the kind and the place are kept. -/
def otherStatement (form : StatementForm) (start : Nat) : Parse source Statement := do
  return .other form (← spanFrom start)

/-- One declared name or pattern with its type and its initializer. -/
def declarator (g : Grammar source) (context : Context) : Parse source Declarator := do
  let start ← start
  let binding ← g.binding context
  if context.typed then
    let _ ← eatMark "!"
  g.annotation? context
  let init ← if ← eatMark "=" then some <$> g.single context else pure none
  return ⟨binding, init, ← spanFrom start⟩

def declarators (g : Grammar source) (context : Context) : Parse source (List Declarator) := do
  let first ← g.declarator context
  let rest ← repeated (fun rest => do
    if ← eatMark "," then return some ((← g.declarator context) :: rest) else return none) []
  return first :: rest.reverse

/-- A constant and a pattern need an initializer, unless they are only described. -/
def requireInit (context : Context) (kind : Template.VariableKind) :
    List Declarator → Parse source Unit
  | [] => pure ()
  | declarator :: rest => do
    if declarator.init.isNone && !context.ambient then
      if kind = .constant then throw ⟨.uninitialized, declarator.binding.span⟩
      if declarator.binding matches .pattern _ then unexpected
    requireInit context kind rest

/-- The keyword of a variable declaration, if one begins here. -/
def variableKind? : Parse source (Option Template.VariableKind) := do
  match ← token with
  | .word "var" false => return some .var
  | .word "const" false => return some .constant
  | .word "let" false =>
    match (← get).advance.token with
    | .word .. | .mark "[" | .mark "\x7b" => return some .lexical
    | _ => return none
  | _ => return none

def variableStatement (g : Grammar source) (context : Context) (kind : Template.VariableKind) :
    Parse source Statement := do
  let start ← start
  advance
  let declarators ← g.declarators { context with allowIn := true }
  requireInit context kind declarators
  semicolon .unexpected
  return .declaration context.ambient kind declarators (← spanFrom start)

def condition (g : Grammar source) (context : Context) : Parse source Unit := do
  expectMark "("
  let _ ← g.expression context.bracketed
  expectMark ")"

/-- A statement inside another one. -/
def body (g : Grammar source) (context : Context) : Parse source Unit := do
  let _ ← g.statement context

def ifStatement (g : Grammar source) (context : Context) : Parse source Statement := do
  let start ← start
  advance
  g.condition context
  g.body { context with single := true }
  if ← eatWord "else" then g.body { context with single := true }
  otherStatement .ifElse start

def whileStatement (g : Grammar source) (context : Context) : Parse source Statement := do
  let start ← start
  advance
  g.condition context
  g.body context.loop
  otherStatement .whileLoop start

def doStatement (g : Grammar source) (context : Context) : Parse source Statement := do
  let start ← start
  advance
  g.body context.loop
  expectWord "while"
  g.condition context
  let _ ← eatMark ";"
  otherStatement .doWhileLoop start

/-- The rest of the head of a loop over the items of a value. -/
def iterationTail (g : Grammar source) (context : Context) : Parse source Unit := do
  if ← eatWord "of" then
    let _ ← g.single context.bracketed
  else
    expectWord "in"
    let _ ← g.expression context.bracketed
  expectMark ")"

/-- The rest of the head of a counting loop, after its first semicolon. -/
def countingTail (g : Grammar source) (context : Context) : Parse source Unit := do
  if !(← isMark ";") then
    let _ ← g.expression context.bracketed
  expectMark ";"
  if !(← isMark ")") then
    let _ ← g.expression context.bracketed
  expectMark ")"

/-- Whether a loop over the items of a value begins its second half here. -/
def atIteration : Parse source Bool := do
  return (← isWord "of") || (← isWord "in")

def declaringHead (g : Grammar source) (context : Context) (kind : Template.VariableKind) :
    Parse source Unit := do
  advance
  let declarators ← g.declarators { context.bracketed with allowIn := false }
  if ← atIteration then
    require (declarators.length = 1 && declarators.all (·.init.isNone))
    g.iterationTail context
  else
    requireInit context kind declarators
    expectMark ";"
    g.countingTail context

def expressionHead (g : Grammar source) (context : Context) : Parse source Unit := do
  let inner := { context.bracketed with allowIn := false }
  let first ← g.assignment inner
  if ← atIteration then
    require (first.simple || first.pattern)
    g.iterationTail context
  else
    let _ ← plain first
    if ← eatMark "," then
      let _ ← g.expression inner
    expectMark ";"
    g.countingTail context

/-- The head of a loop, with the parentheses around it. -/
def forHead (g : Grammar source) (context : Context) : Parse source Unit := do
  expectMark "("
  if ← eatMark ";" then g.countingTail context
  else
    match ← variableKind? with
    | some kind => g.declaringHead context kind
    | none => g.expressionHead context

def forStatement (g : Grammar source) (context : Context) : Parse source Statement := do
  let start ← start
  advance
  if context.awaits then
    let _ ← eatWord "await"
  g.forHead context
  g.body context.loop
  otherStatement .forLoop start

/-- The label that a jump names, if it names one on its own line. -/
def jumpLabel? (context : Context) : Parse source Bool := do
  if (← newline) || !(← atName) then return false
  let (label, _) ← Parse.name
  require (context.labels.contains label)
  return true

/-- A jump out of a loop, a switch or a labeled statement. -/
def breakStatement (context : Context) : Parse source Statement := do
  let start ← start
  advance
  if !(← jumpLabel? context) then require context.breaks
  semicolon .unexpected
  otherStatement .breakFrom start

def continueStatement (context : Context) : Parse source Statement := do
  let start ← start
  advance
  require context.continues
  let _ ← jumpLabel? context
  semicolon .unexpected
  otherStatement .continueWith start

def returnStatement (g : Grammar source) (context : Context) : Parse source Statement := do
  let start ← start
  require context.returns
  advance
  if !(← atStatementEnd) then
    let _ ← g.expression context.bracketed
  semicolon .unexpected
  otherStatement .returnFrom start

/-- A throw, whose operand begins on the same line. -/
def throwStatement (g : Grammar source) (context : Context) : Parse source Statement := do
  let start ← start
  advance
  require !(← newline)
  let _ ← g.expression context.bracketed
  semicolon .unexpected
  otherStatement .throwError start

/-- The cases of a switch after its opening brace. There is at most one default. -/
def switchCases (g : Grammar source) (context : Context) : Parse source Unit := do
  let _ ← repeated (fun defaulted => do
    if ← isMark "\x7d" then return none
    let isDefault ← if ← eatWord "default" then pure true
      else
        expectWord "case"
        let _ ← g.expression context.bracketed
        pure false
    require !(defaulted && isDefault)
    expectMark ":"
    whileDo do
      if (← isMark "\x7d") || (← isWord "case") || (← isWord "default") then return false
      g.body { context.list with breaks := true }
      return true
    return some (defaulted || isDefault)) false

def switchStatement (g : Grammar source) (context : Context) : Parse source Statement := do
  let start ← start
  advance
  g.condition context
  expectMark "\x7b"
  g.switchCases context
  expectMark "\x7d"
  otherStatement .switchCase start

/-- A block with what follows a failure in it, and what follows in any case. -/
def tryStatement (g : Grammar source) (context : Context) : Parse source Statement := do
  let start ← start
  advance
  g.block context
  let caught ← eatWord "catch"
  if caught then
    if ← eatMark "(" then
      let _ ← g.binding context
      g.annotation? context
      expectMark ")"
    g.block context
  let finished ← eatWord "finally"
  if finished then g.block context
  require (caught || finished)
  otherStatement .tryCatch start

/-- A statement under a label, which no statement around it may bear. -/
def labeledStatement (g : Grammar source) (context : Context) : Parse source Statement := do
  let start ← start
  let (label, _) ← Parse.name
  require !(context.labels.contains label)
  expectMark ":"
  g.body { context with labels := label :: context.labels, single := true }
  otherStatement .labeled start

/-- A declaration cannot stand where only a single statement may. -/
def requireList (context : Context) : Parse source Unit := require !context.single

/-- A function declaration, from the word `async` on if it has one. -/
def functionStatement (g : Grammar source) (context : Context) (async : Bool) : Parse source Statement := do
  let start ← start
  requireList context
  if async then advance
  g.functionRule context async true
  otherStatement .functionDeclaration start

def classStatement (g : Grammar source) (context : Context) : Parse source Statement := do
  let start ← start
  requireList context
  let _ ← eatWord "abstract"
  g.classRule context true
  otherStatement .classDeclaration start

def expressionStatement (g : Grammar source) (context : Context) : Parse source Statement := do
  let start ← start
  let expr ← g.expression context.bracketed
  semicolon .missingSemicolon
  return .expression expr (← spanFrom start)

def interfaceStatement (g : Grammar source) (context : Context) : Parse source Statement := do
  let start ← start
  advance
  let _ ← Parse.name
  g.typeParameters? context
  if ← eatWord "extends" then
    whileDo do
      g.typeReference context
      eatMark ","
  g.objectType context
  otherStatement .typeDeclaration start

def typeStatement (g : Grammar source) (context : Context) : Parse source Statement := do
  let start ← start
  advance
  let _ ← Parse.name
  g.typeParameters? context
  expectMark "="
  g.type context
  semicolon .unexpected
  otherStatement .typeDeclaration start

/-- An enumeration, from its keyword or the word before that. -/
def enumStatement (g : Grammar source) (context : Context) : Parse source Statement := do
  let start ← start
  let _ ← eatWord "const"
  expectWord "enum"
  let _ ← Parse.name
  expectMark "\x7b"
  commaList "\x7d" do
    let _ ← g.memberName context
    g.default? context
  otherStatement .typeDeclaration start

def namespaceBody (g : Grammar source) (context : Context) : Parse source Unit := do
  expectMark "\x7b"
  whileDo do
    if ← eatMark "\x7d" then return false
    let _ ← g.moduleItem context.list
    return true

/-- A namespace, whose name is a chain of names or, for a module, a string. -/
def namespaceStatement (g : Grammar source) (context : Context) : Parse source Statement := do
  let start ← start
  let global ← isWord "global"
  advance
  if !global then
    if (← token) matches .string _ then advance
    else
      let _ ← Parse.name
      whileDo do
        if ← eatMark "." then
          let _ ← anyWord
          return true
        else return false
  if context.ambient && !(← isMark "\x7b") then semicolon .unexpected
  else g.namespaceBody context
  otherStatement .typeDeclaration start

/-- A declaration whose value is disposed of at the end of its block. -/
def usingStatement (g : Grammar source) (context : Context) : Parse source Statement := do
  let start ← start
  let _ ← eatWord "await"
  expectWord "using"
  let declarators ← g.declarators { context with allowIn := true }
  require (declarators.all fun declarator =>
    declarator.init.isSome && declarator.binding matches .identifier ..)
  semicolon .unexpected
  otherStatement .usingDeclaration start

def describable : List String :=
  ["const", "let", "var", "function", "class", "abstract", "enum", "namespace", "module", "global",
    "interface", "type", "async"]

/-- A description of something that is defined elsewhere. -/
def ambientStatement (g : Grammar source) (context : Context) : Parse source Statement := do
  let start ← start
  expectWord "declare"
  let statement ← if ← isWord "global" then g.namespaceStatement { context with ambient := true }
    else g.statement { context with ambient := true }
  return statement.startingAt start

/-- The word after the current one, if it stands on the same line. -/
def sameLineWord? : Parse source (Option String) := do
  let following := (← get).advance
  match following.token with
  | .word text false => return if following.newline then none else some text
  | _ => return none

/-- The declarations of the typed dialect, each known by its first two tokens. -/
def typedStatement? (g : Grammar source) (context : Context) (text : String) :
    Parse source (Option Statement) := do
  let following ← sameLineWord?
  let named := following.any (!isReserved ·)
  match text with
  | "interface" => if named then some <$> g.interfaceStatement context else return none
  | "type" => if named then some <$> g.typeStatement context else return none
  | "enum" => some <$> g.enumStatement context
  | "const" => if following = some "enum" then some <$> g.enumStatement context else return none
  | "namespace" => if named then some <$> g.namespaceStatement context else return none
  | "module" =>
    let following := (← get).advance
    let quoted := following.token matches .string _ && !following.newline
    if named || quoted then some <$> g.namespaceStatement context else return none
  | "abstract" =>
    if following = some "class" then some <$> g.classStatement context else return none
  | "declare" =>
    if following.any describable.contains then some <$> g.ambientStatement context
    else return none
  | "using" =>
    if named && following ≠ some "of" then some <$> g.usingStatement context else return none
  | "await" =>
    if following = some "using" then
      let third := (← get).advance.advance
      match third.token with
      | .word name false =>
        if third.newline || isReserved name then return none
        else some <$> g.usingStatement context
      | _ => return none
    else return none
  | _ => return none

/-- A statement by its first word, or an expression if the word says nothing. -/
def keywordStatement (g : Grammar source) (context : Context) (text : String) : Parse source Statement := do
  match text with
  | "if" => g.ifStatement context
  | "while" => g.whileStatement context
  | "do" => g.doStatement context
  | "for" => g.forStatement context
  | "break" => breakStatement context
  | "continue" => continueStatement context
  | "return" => g.returnStatement context
  | "throw" => g.throwStatement context
  | "switch" => g.switchStatement context
  | "try" => g.tryStatement context
  | "function" => g.functionStatement context false
  | "class" => g.classStatement context
  | "debugger" =>
    let start ← start
    advance
    semicolon .unexpected
    otherStatement .debugger start
  | _ =>
    if text == "async" && (← sameLineWord?) = some "function" then
      g.functionStatement context true
    else if (← atName) && (← nextIsMark ":") then g.labeledStatement context
    else g.expressionStatement context

/-- The statements that both dialects have. -/
def commonStatement (g : Grammar source) (context : Context) (text : String) : Parse source Statement := do
  match ← variableKind? with
  | some kind =>
    if kind ≠ .var then requireList context
    g.variableStatement context kind
  | none => g.keywordStatement context text

def wordStatement (g : Grammar source) (context : Context) (text : String) : Parse source Statement := do
  if context.typed then
    if let some statement ← g.typedStatement? context text then
      requireList context
      return statement
  g.commonStatement context text

def statementRule (g : Grammar source) (context : Context) : Parse source Statement := do
  let start ← start
  match ← token with
  | .mark ";" =>
    advance
    return .empty (← spanFrom start)
  | .mark "\x7b" =>
    g.block context
    otherStatement .block start
  | .word text false => g.wordStatement context text
  | _ => g.expressionStatement context

end LogicFree.Script.Grammar
