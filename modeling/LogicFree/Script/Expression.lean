import LogicFree.Script.Function
import LogicFree.Script.Markup

/-! Expressions, from the primary ones up to assignments. -/

namespace LogicFree.Script.Grammar

open Parse

variable {source : List Char}

def nameOperand (name : String) (span : Span) : Operand :=
  let bound := !isRestricted name
  { expr := .identifier name span, simple := bound, slot := bound, parameter := bound }

/-- An operand of which only the kind and the place are kept. -/
def other (form : ExprForm) (start : Nat) : Parse source Operand := do
  return (Expr.other form (← spanFrom start)).operand

def arguments (g : Grammar source) (context : Context) : Parse source Unit := do
  expectMark "("
  commaList ")" do
    let _ ← eatMark "..."
    let _ ← g.single context.bracketed

def templateLiteral (g : Grammar source) (context : Context) (tagged : Bool) : Parse source Unit := do
  let opening := (← get).next
  let state ← repeated (fun state => do
    match state with
    | (none, place) =>
      match found : readTemplate? tagged ((← get).bound + 1) place.toInput with
      | some (.close after) => return some (some (place.reach after (readTemplate?_ahead found)), place)
      | some (.hole after) =>
        resume (place.reach after (readTemplate?_ahead found))
        let _ ← g.expression context.bracketed
        return some (none, ← afterBrace)
      | none => unexpected
    | (some _, _) => return none) (none, opening)
  match state with
  | (some after, _) => resume after
  | (none, _) => unexpected

/-- The body of an arrow function from its arrow on, which stands on the line
where the parameters end. -/
def arrowBody (g : Grammar source) (context : Context) (async : Bool) (start : Nat) : Parse source Operand := do
  require !(← newline)
  expectMark "=>"
  let inner := context.arrow async
  if ← isMark "\x7b" then g.block inner
  else
    let _ ← g.single inner
  return { ← other .arrow start with closed := true }

def mayBeArrow (context : Context) (start : Nat) : Bool := context.arrowAt == some start

/-- An arrow function whose parameters cannot be taken for an expression. -/
def arrowHead (g : Grammar source) (context : Context) (async : Bool) (start : Nat) :
    Parse source Operand := do
  let inner := context.arrow async
  g.typeParameters? inner
  g.parameters inner
  g.result? inner
  g.arrowBody context async start

/-- What has been read between parentheses that may hold parameters. -/
structure ParenList where
  /-- The items, the last one first. -/
  items : List Operand := []
  /-- It can only be a parameter list. -/
  onlyParameters : Bool := false
  closed : Bool := false

/-- The type and the default that a parameter may have and an expression may not. -/
def parameterTail (g : Grammar source) (context : Context) (item : Operand) : Parse source Bool := do
  if !context.typed || !item.parameter then return false
  let optional ← eatMark "?"
  let annotated ← isMark ":"
  g.annotation? context
  if optional || annotated then
    g.default? context
    return true
  else return false

def parenItem (g : Grammar source) (context : Context) (state : ParenList) :
    Parse source (Option ParenList) := do
  if state.closed then return none
  if ← eatMark ")" then return some { state with onlyParameters := true, closed := true }
  if ← eatMark "..." then
    let _ ← g.binding context
    g.annotation? context
    expectMark ")"
    return some { state with onlyParameters := true, closed := true }
  if context.typed && (← isWord "this") && (← nextIsMark ":") then
    advance
    g.annotation context
    let closed ← eatMark ")"
    if !closed then expectMark ","
    return some { state with onlyParameters := true, closed }
  let item ← g.assignment context.bracketed
  let tail ← g.parameterTail context.bracketed item
  let closed ← eatMark ")"
  if !closed then expectMark ","
  return some
    { items := item :: state.items, onlyParameters := state.onlyParameters || tail, closed }

/-- The expression between parentheses, once it is known to be one. -/
def parenOperand (items : List Operand) (start : Nat) : Parse source Operand := do
  let span ← spanFrom start
  require (items.all (!·.pending))
  match items with
  | [] => unexpected
  | [item] => return { expr := .paren item.expr span, simple := item.simple, slot := item.simple }
  | first :: rest =>
    let stop := ((rest.getLast?).getD first).expr.span.stop
    let inner := Expr.other .sequence ⟨first.expr.span.start, stop⟩
    return (Expr.paren inner span).operand

/-- Parentheses: around an expression, or around the parameters of an arrow
function. Which of the two is known only afterwards. -/
def paren (g : Grammar source) (context : Context) : Parse source Operand := do
  let start ← start
  expectMark "("
  let state ← repeated (g.parenItem context) {}
  let items := state.items.reverse
  if mayBeArrow context start && items.all (·.parameter) then
    if context.typed && (← isMark ":") then
      let typed ← attempt do
        expectMark ":"
        g.resultType context
        g.arrowBody context false start
      if let some operand := typed then return operand
    if (← isMark "=>") && !(← newline) then return ← g.arrowBody context false start
  require !state.onlyParameters
  parenOperand items start

/-- The other readings of a literal made of items. -/
structure Readings where
  slot : Bool := true
  parameter : Bool := true
  pending : Bool := false
  /-- A rest item has been met, after which a pattern cannot go on. -/
  rest : Bool := false

namespace Readings

def add (readings : Readings) (item : Operand) : Readings :=
  { readings with
    slot := readings.slot && item.slot
    parameter := readings.parameter && item.parameter
    pending := readings.pending || item.pending }

/-- Adds a rest item. -/
def addRest (readings : Readings) (item : Operand) : Readings :=
  { readings.add item with rest := true }

/-- Adds an item that no pattern can hold. -/
def addValue (readings : Readings) : Readings :=
  { readings with slot := false, parameter := false }

/-- Adds a comma, which cannot follow the rest item of a pattern. -/
def addComma (readings : Readings) : Readings :=
  if readings.rest then readings.addValue else readings

def operand (readings : Readings) (form : ExprForm) (start : Nat) : Parse source Operand := do
  let span ← spanFrom start
  return {
    expr := .other form span
    pattern := readings.slot
    slot := readings.slot
    parameter := readings.parameter
    pending := readings.pending }

end Readings

def arrayLiteral (g : Grammar source) (context : Context) : Parse source Operand := do
  let start ← start
  expectMark "["
  let inner := context.bracketed
  let readings ← repeated (fun state => do
    match state with
    | (_, true) => return none
    | (readings, false) =>
      if ← eatMark "]" then return some (readings, true)
      if ← eatMark "," then return some (readings, false)
      let readings ← if ← eatMark "..." then pure (readings.addRest (← g.assignment inner))
        else pure (readings.add (← g.assignment inner))
      if ← eatMark "]" then return some (readings, true)
      expectMark ","
      return some (readings.addComma, false)) (({} : Readings), false)
  readings.1.operand .array start

/-- The parameters and the body of a method of an object. -/
def objectMethodTail (g : Grammar source) (context : Context) (async generator : Bool) :
    Parse source Unit := do
  let inner := context.function async generator true
  g.signature inner
  g.block inner

def objectMethod (g : Grammar source) (context : Context) (async generator : Bool) : Parse source Unit := do
  let _ ← g.memberName context.bracketed
  g.objectMethodTail context async generator

def objectAccessor (g : Grammar source) (context : Context) (accessor : Accessor) : Parse source Unit := do
  let _ ← g.memberName context.bracketed
  let inner := context.function false false true
  g.accessorParameters inner accessor
  g.result? inner
  g.block inner

/-- One property of an object literal, added to the readings of the literal. -/
def objectProperty (g : Grammar source) (context : Context) (readings : Readings) : Parse source Readings := do
  let inner := context.bracketed
  if ← eatMark "..." then
    let item ← g.assignment inner
    return readings.addRest { item with
      slot := item.simple
      parameter := item.parameter && item.expr matches .identifier .. }
  if ← eatMark "*" then
    g.objectMethod context false true
    return readings.addValue
  let cursor ← get
  match cursor.token with
  | .word text escaped =>
    let following := cursor.advance
    let modifies := !escaped && (← nextIsMember)
    if let some accessor := Accessor.ofWord? text then
      if modifies then
        advance
        g.objectAccessor context accessor
        return readings.addValue
    if text == "async" && !escaped && !following.newline &&
        (modifies || following.token == .mark "*") then
      advance
      g.objectMethod context true (← eatMark "*")
      return readings.addValue
    if [.mark ",", .mark "\x7d", .mark "="].contains following.token then
      let (text, span) ← Parse.name
      let item := nameOperand text span
      if ← eatMark "=" then
        let _ ← g.single inner
        return readings.add { item with pending := true }
      return readings.add item
  | _ => pure ()
  let _ ← g.memberName inner
  if (← isMark "(") || (context.typed && (← isMark "<")) then
    g.objectMethodTail context false false
    return readings.addValue
  expectMark ":"
  return readings.add (← g.assignment inner)

def objectLiteral (g : Grammar source) (context : Context) : Parse source Operand := do
  let start ← start
  expectMark "\x7b"
  let readings ← repeated (fun state => do
    match state with
    | (_, true) => return none
    | (readings, false) =>
      if ← eatMark "\x7d" then return some (readings, true)
      let readings ← g.objectProperty context readings
      if ← eatMark "\x7d" then return some (readings, true)
      expectMark ","
      return some (readings.addComma, false)) (({} : Readings), false)
  readings.1.operand .object start

def newExpression (g : Grammar source) (context : Context) : Parse source Operand := do
  let start ← start
  expectWord "new"
  if ← eatMark "." then
    expectWord "target"
    require context.newTarget
    return ← other .metaProperty start
  let _ ← plain (← g.access { context with arrowAt := none } false)
  if context.typed && (← atOpenAngle) then
    let _ ← attempt do
      g.typeArguments context
      require (← isMark "(")
  if ← isMark "(" then g.arguments context
  other .instantiation start

def superExpression (g : Grammar source) (context : Context) : Parse source Operand := do
  let start ← start
  require (context.superAllowed || context.typed)
  expectWord "super"
  match ← token with
  | .mark "." =>
    advance
    let _ ← anyWord
    return (Expr.other .superProperty (← spanFrom start)).place
  | .mark "[" =>
    advance
    let _ ← g.expression context.bracketed
    expectMark "]"
    return (Expr.other .superProperty (← spanFrom start)).place
  | _ =>
    g.arguments context
    other .call start

/-- A call that loads a module, or the data of the current one. -/
def importExpression (g : Grammar source) (context : Context) : Parse source Operand := do
  let start ← start
  expectWord "import"
  if ← eatMark "." then
    expectWord "meta"
    return ← other .metaProperty start
  expectMark "("
  let _ ← g.single context.bracketed
  if ← eatMark "," then
    if !(← isMark ")") then
      let _ ← g.single context.bracketed
      let _ ← eatMark ","
  expectMark ")"
  other .call start

/-- A name. If an arrow follows it, it is a parameter. -/
def nameExpression (g : Grammar source) (context : Context) : Parse source Operand := do
  let (name, span) ← Parse.name
  let operand := nameOperand name span
  if mayBeArrow context span.start && operand.parameter && (← isMark "=>") && !(← newline) then
    g.arrowBody context false span.start
  else return operand

/-- The word `async` at the front of an expression: a function, an arrow function,
or a name like any other. -/
def asyncExpression (g : Grammar source) (context : Context) : Parse source Operand := do
  let start ← start
  let following := (← get).advance
  if following.token == .word "function" false && !following.newline then
    advance
    g.functionRule context true false
    return ← other .functionValue start
  if mayBeArrow context start && !following.newline then
    let arrow ← attempt do
      advance
      if ← atName then
        let _ ← bindingName
        g.arrowBody context true start
      else g.arrowHead context true start
    if let some operand := arrow then return operand
  g.nameExpression context

def wordExpression (g : Grammar source) (context : Context) (text : String) : Parse source Operand := do
  let start ← start
  match text with
  | "this" =>
    advance
    other .thisValue start
  | "null" =>
    advance
    other .nullValue start
  | "true" =>
    advance
    return (Expr.boolean true (← spanFrom start)).operand
  | "false" =>
    advance
    return (Expr.boolean false (← spanFrom start)).operand
  | "function" =>
    g.functionRule context false false
    other .functionValue start
  | "class" =>
    g.classRule context false
    other .classValue start
  | "new" => g.newExpression context
  | "super" => g.superExpression context
  | "import" => g.importExpression context
  | "async" => g.asyncExpression context
  | _ => g.nameExpression context

/-- A regular expression, which is read from the input itself. -/
def regexLiteral : Parse source Operand := do
  let cursor ← get
  match found : readRegex? (cursor.bound + 1) cursor.here.toInput with
  | some after =>
    resume (cursor.here.reach after (readRegex?_ahead found))
    other .regex cursor.here.pos
  | none => unexpected

def markExpression (g : Grammar source) (context : Context) (text : String) : Parse source Operand :=
  match text with
  | "(" => g.paren context
  | "[" => g.arrayLiteral context
  | "\x7b" => g.objectLiteral context
  | "/" | "/=" => regexLiteral
  | _ => unexpected

def primary (g : Grammar source) (context : Context) : Parse source Operand := do
  let cursor ← get
  let span := cursor.span
  match cursor.token with
  | .word text false => g.wordExpression context text
  | .word _ true => g.nameExpression context
  | .mark text => g.markExpression context text
  | .hashWord _ =>
    advance
    return (Expr.other .privateName span).operand
  | .number bits =>
    advance
    return (Expr.number bits span).operand
  | .bigint =>
    advance
    return (Expr.other .bigint span).operand
  | .string value =>
    advance
    return (Expr.string value span).operand
  | .tick =>
    g.templateLiteral context false
    other .template span.start
  | .finish | .invalid => unexpected

/-- The marks that can begin an operand, and the closing angle bracket. -/
def operandMarks : List String :=
  ["(", "[", "\x7b", "+", "-", "!", "~", "++", "--", "/", "/=", "<", ">"]

/-- Whether type arguments that end before the current token belong to an
expression. They do if no further operand can begin here. -/
def endsTypeArguments : Parse source Bool := do
  if ← newline then return true
  match ← token with
  | .word text false => return ["in", "instanceof", "as", "satisfies"].contains text
  | .word _ true | .hashWord _ | .number _ | .bigint | .string _ | .tick | .invalid => return false
  | .mark text => return !operandMarks.contains text
  | .finish => return true

/-- An operand and whether an optional access has been made on the way to it. -/
structure Chain where
  operand : Operand
  optional : Bool := false

/-- One more access: a property, an index, a call or a tagged literal. After an
optional access the whole chain is one. -/
def nextAccess (g : Grammar source) (context : Context) (calls : Bool) (start : Nat) (chain : Chain) :
    Parse source (Option Chain) := do
  if chain.operand.closed then return none
  match ← token with
  | .mark "." =>
    advance
    let property ← propertyName
    step (.member (← plain chain.operand) property)
  | .mark "[" =>
    advance
    let index ← g.expression context.bracketed
    expectMark "]"
    step (.member (← plain chain.operand) (.computed index))
  | .mark "?." =>
    require (calls && !chain.operand.pending)
    advance
    match ← token with
    | .mark "(" => g.arguments context
    | .mark "[" =>
      advance
      let _ ← g.expression context.bracketed
      expectMark "]"
    | .mark "<" =>
      require context.typed
      g.typeArguments context
      g.arguments context
    | _ =>
      let _ ← propertyName
    return some ⟨← other .optionalChain start, true⟩
  | .mark "(" =>
    if !calls then return none
    require !chain.operand.pending
    g.arguments context
    call
  | .tick =>
    require (!chain.optional && !chain.operand.pending)
    g.templateLiteral context true
    return some ⟨← other .taggedTemplate start, false⟩
  | .mark "!" =>
    if !context.typed || (← newline) then return none
    require !chain.operand.pending
    advance
    return some { chain with operand := (Expr.other .typeExpression (← spanFrom start)).place }
  | .mark "<" | .mark "<<" =>
    if !context.typed || !calls then return none
    attempt do
      g.typeArguments context
      if ← isMark "(" then
        g.arguments context
        return ⟨← other (if chain.optional then .optionalChain else .call) start, chain.optional⟩
      else if (← token) == .tick then
        require !chain.optional
        g.templateLiteral context true
        return ⟨← other .taggedTemplate start, false⟩
      else
        require (← endsTypeArguments)
        return ⟨← other .typeExpression start, chain.optional⟩
  | _ => return none
where
  propertyName : Parse source Property := do
    let cursor ← get
    match cursor.token with
    | .word name _ =>
      advance
      return .named name cursor.span
    | .hashWord _ =>
      advance
      return .hidden cursor.span
    | _ => unexpected
  step (make : Span → Expr) : Parse source (Option Chain) := do
    if chain.optional then return some ⟨← other .optionalChain start, true⟩
    return some ⟨(make (← spanFrom start)).place, false⟩
  call : Parse source (Option Chain) := do
    return some ⟨← other (if chain.optional then .optionalChain else .call) start, chain.optional⟩

/-- A primary expression and everything that is read off it. -/
def accessRule (g : Grammar source) (context : Context) (calls : Bool) : Parse source Operand := do
  let start ← start
  let first ← g.primary context
  return (← repeated (g.nextAccess context calls start) ⟨first, false⟩).operand

def unaryOperator? : Token → Option UnaryOperator
  | .mark "+" => some .plus
  | .mark "-" => some .minus
  | .mark "!" => some .not
  | .mark "~" => some .complement
  | .mark "++" => some .increment
  | .mark "--" => some .decrement
  | .word "typeof" false => some .typeOf
  | .word "void" false => some .discard
  | .word "delete" false => some .delete
  | _ => none

/-- An operand after an operator. Only places can be counted up or down, and a
plain name cannot be deleted. -/
def operated (g : Grammar source) (context : Context) (operator : UnaryOperator) : Parse source Operand := do
  let start ← start
  advance
  let operand ← g.unary context
  let expr ← plain operand
  if operator == .increment || operator == .decrement then require operand.simple
  if operator == .delete then require !(expr matches .identifier ..)
  return (Expr.unary operator (← spanFrom start)).operand

/-- Markup as an operand. Nothing can be read off it. -/
def markupOperand (g : Grammar source) (context : Context) : Parse source Operand := do
  let start ← start
  openAngle
  let (found, after) ← g.markup context.bracketed start
  resume after
  match found with
  | .element inner => return (Expr.element inner).operand
  | .fragment span => return (Expr.other .fragment span).operand

/-- An operand with the operators that apply to it alone. -/
def unaryRule (g : Grammar source) (context : Context) : Parse source Operand := do
  let start ← start
  let current ← token
  if let some operator := unaryOperator? current then return ← g.operated context operator
  if current == .word "await" false then
    require context.awaits
    advance
    let _ ← plain (← g.unary context)
    return ← other .awaitValue start
  if current == .mark "<" then return ← g.markupOperand context
  let operand ← g.accessRule context true
  if operand.closed || (← newline) then return operand
  if (← isMark "++") || (← isMark "--") then
    require operand.simple
    let operator ← if ← isMark "++" then pure UnaryOperator.increment else pure .decrement
    advance
    return (Expr.unary operator (← spanFrom start)).operand
  return operand

def binaryOperator? (context : Context) : Token → Option BinaryOperator
  | .mark text => BinaryOperator.all.find? (·.text == text)
  | .word "in" false => if context.allowIn then some .membership else none
  | .word "instanceof" false => some .instanceOf
  | _ => none

/-- The operators for conditions cannot be mixed with the one for absent values,
unless parentheses tell them apart. -/
def clashes (operator : BinaryOperator) (operand : Expr) : Bool :=
  match operator, operand with
  | .coalesce, .binary inner _ => inner == .logicalOr || inner == .logicalAnd
  | .logicalOr, .binary inner _ | .logicalAnd, .binary inner _ => inner == .coalesce
  | _, _ => false

/-- A power of an operand that itself begins with an operator needs parentheses. -/
def isBarePower (operator : BinaryOperator) (operand : Expr) : Bool :=
  match operator, operand with
  | .power, .unary inner _ => inner != .increment && inner != .decrement
  | .power, .other .awaitValue _ => true
  | _, _ => false

def typeWordPrecedence : Nat := 7

def nextOperator (g : Grammar source) (context : Context) (precedence : Nat) (left : Operand) :
    Parse source (Option Operand) := do
  if left.closed then return none
  let current ← token
  let start := left.expr.span.start
  if context.typed && precedence ≤ typeWordPrecedence && !(← newline) &&
      (current == .word "as" false || current == .word "satisfies" false) then
    let _ ← plain left
    advance
    if !(← eatWord "const") then g.type context
    return some (Expr.other .typeExpression ⟨start, ← last⟩).place
  match binaryOperator? context current with
  | none => return none
  | some operator =>
    if operator.precedence < precedence then return none
    let leftExpr ← plain left
    require !(isBarePower operator leftExpr)
    advance
    let tighter := if operator == .power then operator.precedence else operator.precedence + 1
    let right ← plain (← g.binary context tighter)
    require !(clashes operator leftExpr || clashes operator right)
    return some (Expr.binary operator ⟨start, ← last⟩).operand

def binaryRule (g : Grammar source) (context : Context) (precedence : Nat) : Parse source Operand := do
  repeated (g.nextOperator context precedence) (← g.unaryRule context)

def assignmentMarks : List String :=
  ["=", "+=", "-=", "*=", "/=", "%=", "**=", "<<=", ">>=", ">>>=", "&=", "|=", "^=", "&&=", "||=",
    "??="]

/-- What follows the question mark of a parameter that can be left out. -/
def afterOptional : List Token := [.mark ",", .mark ")", .mark ":", .mark "="]

/-- Whether a question mark opens a conditional. In a typed parameter list it may
mark a parameter that can be left out. -/
def atConditional (context : Context) : Parse source Bool := do
  if !(← isMark "?") then return false
  if !context.typed then return true
  return !afterOptional.contains (← get).advance.token

def yieldExpression (g : Grammar source) (context : Context) : Parse source Operand := do
  let start ← start
  expectWord "yield"
  let bare := (← newline) || match ← token with
    | .finish => true
    | .mark text => [")", "]", "\x7d", ",", ";", ":"].contains text
    | .word text false => text == "in" || text == "of"
    | _ => false
  if !bare then
    let _ ← eatMark "*"
    let _ ← g.single context
  other .yieldValue start

/-- What may follow the first operand of an expression: a conditional, or an
assignment to it. -/
def assignmentTail (g : Grammar source) (context : Context) (left : Operand) : Parse source Operand := do
  if left.closed then return left
  let start := left.expr.span.start
  if ← atConditional context then
    let _ ← plain left
    advance
    let _ ← g.single context.bracketed
    expectMark ":"
    let _ ← g.single context
    return (Expr.other .conditional ⟨start, ← last⟩).operand
  match ← token with
  | .mark text =>
    if !assignmentMarks.contains text then return left
    let plainMark := text == "="
    require (left.simple || (plainMark && left.pattern))
    advance
    let _ ← g.single context
    return {
      expr := .other .assignment ⟨start, ← last⟩
      slot := plainMark
      parameter := plainMark && left.parameter }
  | _ => return left

/-- An expression that holds no comma of its own. In the typed dialect an angle
bracket may also open the type parameters of an arrow function. -/
def assignmentRule (g : Grammar source) (context : Context) : Parse source Operand := do
  let start ← start
  let inner := { context with arrowAt := some start }
  if context.yields && (← isWord "yield") then return ← g.yieldExpression context
  let ordinary := do g.assignmentTail context (← g.binaryRule inner 0)
  if context.typed && (← isMark "<") then
    Parse.orElse ordinary (g.arrowHead inner false start)
  else ordinary

end LogicFree.Script.Grammar
