import LogicFree.Script.Statement

/-! Module-level declarations: imports and exports. -/

namespace LogicFree.Script.Grammar

open Parse

variable {source : List Char}

/-- A module-level declaration that ends with the last token. -/
def moduleStatement (form : ModuleForm) (start : Nat) : Parse source Statement := do
  return .moduleItem form (← spanFrom start)

/-- Attributes of an imported module, which only the typed dialect reads. -/
def importAttributes (g : Grammar source) (context : Context) : Parse source Unit := do
  if context.typed && !(← newline) && ((← isWord "with") || (← isWord "assert")) then
    advance
    let _ ← g.objectLiteral context

def moduleSource (g : Grammar source) (context : Context) : Parse source Unit := do
  stringLiteral
  g.importAttributes context
  semicolon .unexpected

def fromSource (g : Grammar source) (context : Context) : Parse source Unit := do
  expectWord "from"
  g.moduleSource context

/-- A name on the outside of a module: any word, or a string. -/
def outerName : Parse source Unit := do
  match ← token with
  | .word .. | .string _ => advance
  | _ => unexpected

/-- Whether the current name is followed by another one, so that the word `type`
before it is a modifier. -/
def eatTypeModifier (context : Context) : Parse source Unit := do
  if context.typed && (← isWord "type") then
    match (← get).advance.token with
    | .word "as" false =>
      match (← get).advance.advance.token with
      | .word "as" false | .mark "," | .mark "\x7d" => advance
      | _ => pure ()
    | .word .. | .string _ => advance
    | _ => pure ()

/-- One imported name. Its local name has to be one that can be bound. -/
def importSpecifier (context : Context) : Parse source Unit := do
  eatTypeModifier context
  let following := (← get).advance
  if following.token == .word "as" false then
    outerName
    expectWord "as"
  let _ ← bindingName

/-- Imported names in braces, or a whole module under a name. -/
def importNames (context : Context) : Parse source Unit := do
  if ← eatMark "*" then
    expectWord "as"
    let _ ← bindingName
  else
    expectMark "\x7b"
    commaList "\x7d" (importSpecifier context)

/-- Another name for a module or for a part of a namespace. -/
def importAlias (g : Grammar source) (context : Context) (start : Nat) : Parse source Statement := do
  let _ ← bindingName
  expectMark "="
  if (← isWord "require") && (← nextIsMark "(") then
    advance
    advance
    stringLiteral
    expectMark ")"
  else g.typeReference context
  semicolon .unexpected
  moduleStatement .importAlias start

/-- The word `type` before everything that is imported. Before a name alone it is a name
itself. -/
def eatTypeOnly (context : Context) : Parse source Unit := do
  if context.typed && (← isWord "type") then
    let following := (← get).advance
    match following.token with
    | .mark "\x7b" | .mark "*" => advance
    | .word "from" false =>
      if following.advance.token == .word "from" false then advance
    | .word .. => advance
    | _ => pure ()

def importDeclaration (g : Grammar source) (context : Context) : Parse source Statement := do
  let start ← start
  expectWord "import"
  if (← token) matches .string _ then
    g.moduleSource context
    return ← moduleStatement .importNames start
  eatTypeOnly context
  if context.typed && (← atName) && (← nextIsMark "=") then
    return ← g.importAlias context start
  if ← atName then
    let _ ← bindingName
    if ← eatMark "," then importNames context
  else importNames context
  g.fromSource context
  moduleStatement .importNames start

/-- One exported name. It says whether its local name could be one. -/
def exportSpecifier (context : Context) : Parse source Bool := do
  eatTypeModifier context
  let isLocal ← atName
  outerName
  if ← eatWord "as" then outerName
  return isLocal

def exportNames (g : Grammar source) (context : Context) (start : Nat) : Parse source Statement := do
  expectMark "\x7b"
  let (allLocal, _) ← repeated (fun state => do
    match state with
    | (_, true) => return none
    | (allLocal, false) =>
      if ← eatMark "\x7d" then return some (allLocal, true)
      let isLocal ← exportSpecifier context
      if ← eatMark "\x7d" then return some (allLocal && isLocal, true)
      expectMark ","
      return some (allLocal && isLocal, false)) (true, false)
  if ← isWord "from" then
    g.fromSource context
    return ← moduleStatement .exportFrom start
  require allLocal
  semicolon .unexpected
  moduleStatement .exportNames start

def exportAll (g : Grammar source) (context : Context) (start : Nat) : Parse source Statement := do
  expectMark "*"
  let named ← eatWord "as"
  if named then outerName
  g.fromSource context
  moduleStatement (if named then .exportFrom else .exportAll) start

/-- The default export: a function or a class, with or without a name, or an
expression. -/
def exportDefault (g : Grammar source) (context : Context) (start : Nat) : Parse source Statement := do
  expectWord "default"
  let following ← sameLineWord?
  if ← isWord "function" then defaultFunction false
  else if (← isWord "async") && following = some "function" then
    advance
    defaultFunction true
  else if ← isWord "class" then g.classRule context false
  else if context.typed && (← isWord "abstract") && following = some "class" then
    advance
    g.classRule context false
  else if context.typed && (← isWord "interface") && following.isSome then
    let _ ← g.interfaceStatement context
  else
    let _ ← g.single context.bracketed
    semicolon .unexpected
  moduleStatement .exportDefault start
where
  defaultFunction (async : Bool) : Parse source Unit := do
    expectWord "function"
    let generator ← eatMark "*"
    if ← atName then
      let _ ← bindingName
    g.functionTail (context.function async generator false)

def isExportable : Statement → Bool
  | .declaration .. => true
  | .other form _ =>
    form = .functionDeclaration || form = .classDeclaration || form = .typeDeclaration
  | _ => false

def exportStatement (g : Grammar source) (context : Context) (start : Nat) : Parse source Statement := do
  require (isExportable (← g.statement context.list))
  moduleStatement .exportDeclaration start

def typedExport? (g : Grammar source) (context : Context) (start : Nat) :
    Parse source (Option Statement) := do
  if !context.typed then return none
  let following := (← get).advance
  match ← token with
  | .mark "=" =>
    advance
    let _ ← g.expression context.bracketed
    semicolon .unexpected
    some <$> moduleStatement .exportAssignment start
  | .word "as" false =>
    advance
    expectWord "namespace"
    let _ ← Parse.name
    semicolon .unexpected
    some <$> moduleStatement .exportNamespace start
  | .word "import" false =>
    advance
    if (← isWord "type") && following.advance.token matches .word .. then advance
    some <$> g.importAlias context start
  | .word "type" false =>
    match following.token with
    | .mark "\x7b" =>
      advance
      some <$> g.exportNames context start
    | .mark "*" =>
      advance
      some <$> g.exportAll context start
    | _ => return none
  | _ => return none

def exportDeclaration (g : Grammar source) (context : Context) : Parse source Statement := do
  let start ← start
  expectWord "export"
  if let some statement ← g.typedExport? context start then return statement
  match ← token with
  | .mark "*" => g.exportAll context start
  | .mark "\x7b" => g.exportNames context start
  | .word "default" false => g.exportDefault context start
  | _ => g.exportStatement context start

/-- An item of a module: an import, an export or a statement. -/
def moduleItemRule (g : Grammar source) (context : Context) : Parse source Statement := do
  match ← token with
  | .word "export" false => g.exportDeclaration context
  | .word "import" false =>
    if (← nextIsMark "(") || (← nextIsMark ".") then g.statement context
    else g.importDeclaration context
  | _ => g.statement context

end LogicFree.Script.Grammar
