import LogicFree.Script.Grammar

/-! Types. Nothing of them is kept; they are read to find where they end. -/

namespace LogicFree.Script.Grammar

open Parse

variable {source : List Char}

def annotation (g : Grammar source) (context : Context) : Parse source Unit := do
  expectMark ":"
  g.type context

/-- A type after a colon, if the dialect has types and there is one. -/
def annotation? (g : Grammar source) (context : Context) : Parse source Unit := do
  if context.typed && (← isMark ":") then g.annotation context

def typeArguments (g : Grammar source) (context : Context) : Parse source Unit := do
  openAngle
  whileDo do
    g.type context
    eatMark ","
  closeAngle

/-- A type parameter: a name with a bound and a default. -/
def typeParameter (g : Grammar source) (context : Context) : Parse source Unit := do
  whileDo do
    if (← isWord "const") || (← isWord "in") then
      advance
      return true
    if ← isWord "out" then
      if (← get).advance.token matches .word .. then
        advance
        return true
    return false
  let _ ← Parse.name
  if ← eatWord "extends" then g.type context
  if ← eatMark "=" then g.type context

def typeParameters (g : Grammar source) (context : Context) : Parse source Unit := do
  openAngle
  whileDo do
    if (← get).here.chars.head? = some '>' then return false
    g.typeParameter context
    eatMark ","
  closeAngle

/-- Type parameters, if the dialect has types and there are some. -/
def typeParameters? (g : Grammar source) (context : Context) : Parse source Unit := do
  if context.typed && (← isMark "<") then g.typeParameters context

/-- The name of a member: a word, a string, a number, or an expression in
brackets. Only the first two are known before the program runs. -/
def memberName (g : Grammar source) (context : Context) : Parse source (Option String) := do
  match ← token with
  | .word text _ =>
    advance
    return some text
  | .string text =>
    advance
    return text
  | .number _ | .bigint =>
    advance
    return none
  | .mark "[" =>
    advance
    let _ ← g.single context.bracketed
    expectMark "]"
    return none
  | _ => unexpected

/-- Whether the token after the current one can begin the name of a member, so
that the current one is a modifier. -/
def nextIsMember : Parse source Bool := return (← get).advance.token.beginsMember

/-- One parameter: a binding with its type and its default. A parameter of a
constructor may carry modifiers. -/
def parameter (g : Grammar source) (context : Context) : Parse source Unit := do
  if context.typed then
    whileDo do
      match ← token with
      | .word text false =>
        if ["public", "private", "protected", "readonly", "override"].contains text then
          match (← get).advance.token with
          | .word .. | .mark "\x7b" | .mark "[" =>
            advance
            return true
          | _ => return false
        else return false
      | _ => return false
  if context.typed && (← isWord "this") then advance
  else
    let _ ← g.binding context
  if context.typed then
    let _ ← eatMark "?"
  g.annotation? context
  if ← eatMark "=" then
    let _ ← g.single context.bracketed

/-- Parameters between parentheses. A rest parameter is the last one. -/
def parameters (g : Grammar source) (context : Context) : Parse source Unit := do
  expectMark "("
  whileDo do
    if ← eatMark ")" then return false
    if ← eatMark "..." then
      let _ ← g.binding context
      g.annotation? context
      expectMark ")"
      return false
    g.parameter context
    if ← eatMark ")" then return false
    expectMark ","
    return true

/-- The result of a function: a type, or a claim about one of its parameters. -/
def resultType (g : Grammar source) (context : Context) : Parse source Unit := do
  if ← isWord "asserts" then
    let following := (← get).advance
    if !following.newline then
      if following.token matches .word .. then
        advance
        advance
        if ← eatWord "is" then g.type context
        return ()
  if (← token) matches .word .. then
    let following := (← get).advance
    if following.token == .word "is" false && !following.newline then
      advance
      advance
  g.type context

/-- A result after a colon, if the dialect has types and there is one. -/
def result? (g : Grammar source) (context : Context) : Parse source Unit := do
  if context.typed then
    if ← eatMark ":" then g.resultType context

def signature (g : Grammar source) (context : Context) : Parse source Unit := do
  g.typeParameters? context
  g.parameters context
  g.result? context

/-- A member whose name stands in brackets: a key of a type, the keys of a mapped
type, or a computed name. -/
def bracketedMember (g : Grammar source) (context : Context) : Parse source Unit := do
  let following := (← get).advance.advance
  expectMark "["
  if following.token == .mark ":" then
    let _ ← anyWord
    g.annotation context
  else if following.token == .word "in" false then
    let _ ← anyWord
    expectWord "in"
    g.type context
    if ← eatWord "as" then g.type context
  else
    let _ ← g.single context.bracketed
  expectMark "]"

def typeMember (g : Grammar source) (context : Context) : Parse source Unit := do
  if (← isMark "(") || (← isMark "<") then return ← g.signature context
  if ← isWord "new" then
    if (← nextIsMark "(") || (← nextIsMark "<") then
      advance
      return ← g.signature context
  if (← isMark "+") || (← isMark "-") then
    advance
    expectWord "readonly"
  else if ← isWord "readonly" then
    if ← nextIsMember then advance
  if (← isWord "get") || (← isWord "set") then
    if ← nextIsMember then advance
  if ← isMark "[" then g.bracketedMember context
  else
    let _ ← g.memberName context
  if (← isMark "+") || (← isMark "-") then
    advance
    expectMark "?"
  else
    let _ ← eatMark "?"
  if (← isMark "(") || (← isMark "<") then g.signature context
  else g.annotation? context

def objectType (g : Grammar source) (context : Context) : Parse source Unit := do
  expectMark "\x7b"
  whileDo do
    if ← eatMark "\x7d" then return false
    g.typeMember context
    if (← isMark ";") || (← isMark ",") then advance
    else require ((← isMark "\x7d") || (← newline))
    return true

def tupleItem (g : Grammar source) (context : Context) : Parse source Unit := do
  let _ ← eatMark "..."
  let following := (← get).advance
  let named := (← token) matches .word .. &&
    (following.token == .mark ":" ||
      (following.token == .mark "?" && following.advance.token == .mark ":"))
  if named then
    advance
    let _ ← eatMark "?"
    expectMark ":"
  g.type context
  let _ ← eatMark "?"

def typeReference (g : Grammar source) (context : Context) : Parse source Unit := do
  let _ ← anyWord
  whileDo do
    if ← eatMark "." then
      let _ ← anyWord
      return true
    else return false
  if (← atOpenAngle) && !(← newline) then g.typeArguments context

def importType (g : Grammar source) (context : Context) : Parse source Unit := do
  expectWord "import"
  expectMark "("
  g.type context
  if ← eatMark "," then
    if !(← isMark ")") then
      let _ ← g.single context.bracketed
  expectMark ")"
  if ← eatMark "." then g.typeReference context
  else if (← atOpenAngle) && !(← newline) then g.typeArguments context

def templateType (g : Grammar source) (context : Context) : Parse source Unit := do
  let opening := (← get).next
  let close ← repeated (fun state => do
    match state with
    | (none, place) =>
      match found : readTemplate? false (← get).bound place.toInput with
      | some (.close after) => return some (some (place.reach after (readTemplate?_ahead found)), place)
      | some (.hole after) =>
        resume (place.reach after (readTemplate?_ahead found))
        g.type context
        require (← isMark "\x7d")
        return some (none, (← get).next)
      | none => unexpected
    | (some _, _) => return none) (none, opening)
  match close with
  | (some after, _) => resume after
  | (none, _) => unexpected

def primaryType (g : Grammar source) (context : Context) : Parse source Unit := do
  match ← token with
  | .string _ | .number _ | .bigint => advance
  | .tick => g.templateType context
  | .mark "-" =>
    advance
    match ← token with
    | .number _ | .bigint => advance
    | _ => unexpected
  | .mark "\x7b" => g.objectType context
  | .mark "[" =>
    advance
    commaList "]" (g.tupleItem context)
  | .mark "(" =>
    advance
    g.type context
    expectMark ")"
  | .word "typeof" false =>
    advance
    if ← isWord "import" then g.importType context else g.typeReference context
  | .word "import" false => g.importType context
  | .word text _ =>
    require (!isReserved text ||
      ["this", "null", "true", "false", "void"].contains text)
    g.typeReference context
  | _ => unexpected

/-- A type with operators before it and brackets after it. -/
def unaryType (g : Grammar source) (context : Context) : Parse source Unit := do
  whileDo do
    match ← token with
    | .word text false =>
      if ["keyof", "unique", "readonly"].contains text then
        match (← get).advance.token with
        | .word .. | .mark "\x7b" | .mark "[" | .mark "(" | .string _ | .tick =>
          advance
          return true
        | _ => return false
      else return false
    | _ => return false
  if ← isWord "infer" then
    advance
    let _ ← Parse.name
    let _ ← attempt do
      expectWord "extends"
      g.type context
      require !(← isMark "?")
  else
    g.primaryType context
    whileDo do
      if (← isMark "[") && !(← newline) then
        advance
        if !(← isMark "]") then g.type context
        expectMark "]"
        return true
      else return false

def unionType (g : Grammar source) (context : Context) : Parse source Unit := do
  if (← isMark "|") || (← isMark "&") then advance
  whileDo do
    g.unaryType context
    if (← isMark "|") || (← isMark "&") then
      advance
      return true
    else return false

def functionType (g : Grammar source) (context : Context) : Parse source Unit := do
  g.typeParameters? context
  g.parameters context
  expectMark "=>"
  g.resultType context

def constructorType (g : Grammar source) (context : Context) : Parse source Unit := do
  let _ ← eatWord "abstract"
  expectWord "new"
  g.functionType context

def typeRule (g : Grammar source) (context : Context) : Parse source Unit := do
  if ← isMark "<" then return ← g.functionType context
  if ← isWord "new" then return ← g.constructorType context
  if ← isWord "abstract" then
    if (← get).advance.token == .word "new" false then return ← g.constructorType context
  if ← isMark "(" then
    if (← attempt (g.functionType context)).isSome then return ()
  g.unionType context
  if (← isWord "extends") && !(← newline) then
    advance
    g.type context
    expectMark "?"
    g.type context
    expectMark ":"
    g.type context

end LogicFree.Script.Grammar
