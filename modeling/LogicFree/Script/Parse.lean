import LogicFree.Script.Token

/-! Reading a token sequence step by step. -/

namespace LogicFree.Script

/-- A step of reading: it moves the cursor and yields a value, or finds a fault. -/
abbrev Parse (source : List Char) := StateT (Cursor source) (Except Fault)

variable {source : List Char}

namespace Parse

def token : Parse source Token := return (← get).token

def start : Parse source Nat := return (← get).here.pos

def last : Parse source Nat := return (← get).last

/-- From a place to the end of the last token that was passed. -/
def spanFrom (start : Nat) : Parse source Span := return ⟨start, ← last⟩

/-- Whether a line ends before the current token. -/
def newline : Parse source Bool := return (← get).newline

def advance : Parse source Unit := modify Cursor.advance

/-- Goes on with the first token from a place that has been reached by reading
characters. -/
def resume (place : Place source) : Parse source Unit :=
  modify fun cursor => Cursor.find cursor.enough place place.pos

def failWith (diagnostic : Diagnostic) : Parse source α := do throw ⟨diagnostic, (← get).span⟩

def unexpected : Parse source α := failWith .unexpected

/-- Goes on only if a condition holds. -/
def require (condition : Bool) : Parse source Unit :=
  if condition then pure () else unexpected

/-- Tries a step and stays in place if it fails. -/
def attempt (step : Parse source α) : Parse source (Option α) := fun cursor =>
  match step cursor with
  | .ok (value, next) => .ok (some value, next)
  | .error _ => .ok (none, cursor)

/-- Tries a step, and a second one from the same place if the first fails. If
both fail, the fault of the first counts. -/
def orElse (first second : Parse source α) : Parse source α := fun cursor =>
  match first cursor with
  | .ok result => .ok result
  | .error fault =>
    match second cursor with
    | .ok result => .ok result
    | .error _ => .error fault

def isMark (text : String) : Parse source Bool := return (← token) == .mark text

def eatMark (text : String) : Parse source Bool := do
  if ← isMark text then
    advance
    return true
  else return false

def expectMark (text : String) : Parse source Unit := do
  if !(← eatMark text) then unexpected

/-- Whether the current token is a word, written without escapes. -/
def isWord (name : String) : Parse source Bool := return (← token) == .word name false

def eatWord (name : String) : Parse source Bool := do
  if ← isWord name then
    advance
    return true
  else return false

def expectWord (name : String) : Parse source Unit := do
  if !(← eatWord name) then unexpected

def nextIsMark (text : String) : Parse source Bool := do
  return (← get).advance.token == .mark text

/-- A step repeated until it yields nothing, at most `bound` times. -/
def iterate (step : σ → Parse source (Option σ)) : (bound : Nat) → σ → Parse source σ
  | 0, _ => unexpected
  | bound + 1, state => do
    match ← step state with
    | none => return state
    | some next => iterate step bound next

/-- Repeats a step until it yields nothing. Every repetition passes a token, so
the bound on the source is enough. -/
def repeated (step : σ → Parse source (Option σ)) (state : σ) : Parse source σ := do
  iterate step ((← get).bound + 1) state

/-- Repeats a step while it says so. -/
def whileDo (step : Parse source Bool) : Parse source Unit :=
  repeated (fun () => do return if ← step then some () else none) ()

/-- Items up to a closing mark, which is passed. Between two items stands a
comma, and a last comma may be left over. -/
def commaList (close : String) (item : Parse source Unit) : Parse source Unit :=
  whileDo do
    if ← eatMark close then return false
    item
    if ← eatMark close then return false
    expectMark ","
    return true

/-- The end of a statement: a semicolon, or a place where one may be left out. -/
def atStatementEnd : Parse source Bool := do
  let cursor ← get
  return cursor.newline || cursor.token == .mark ";" || cursor.token == .mark "\x7d" ||
    cursor.token == .finish

/-- Passes the semicolon at the end of a statement, which may be left out before
a closing brace, at the end of a line and at the end of the file. -/
def semicolon (diagnostic : Diagnostic) : Parse source Unit := do
  if ← eatMark ";" then return ()
  if !(← atStatementEnd) then failWith diagnostic

/-- Passes one closing angle bracket, which may be the front of a longer mark. -/
def closeAngle : Parse source Unit := do
  let cursor ← get
  match cursor.here.chars with
  | '>' :: _ => resume (cursor.here.skip 1)
  | _ => unexpected

/-- Passes one opening angle bracket, which may be the front of a longer mark. -/
def openAngle : Parse source Unit := do
  let cursor ← get
  match cursor.here.chars with
  | '<' :: _ => resume (cursor.here.skip 1)
  | _ => unexpected

/-- Whether the current token begins with an opening angle bracket. -/
def atOpenAngle : Parse source Bool := do
  return (← isMark "<") || (← isMark "<<")

end Parse

def keywords : List String :=
  ["break", "case", "catch", "class", "const", "continue", "debugger", "default", "delete", "do",
    "else", "enum", "export", "extends", "false", "finally", "for", "function", "if", "import",
    "in", "instanceof", "new", "null", "return", "super", "switch", "this", "throw", "true", "try",
    "typeof", "var", "void", "while", "with"]

/-- The words that are no names in a module. -/
def moduleKeywords : List String :=
  ["implements", "interface", "let", "package", "private", "protected", "public", "static",
    "yield", "await"]

def isReserved (name : String) : Bool :=
  keywords.contains name || moduleKeywords.contains name

/-- The names that may be read but never bound or assigned. -/
def isRestricted (name : String) : Bool :=
  name = "eval" || name = "arguments"

namespace Parse

def atName : Parse source Bool := do
  match ← token with
  | .word name _ => return !isReserved name
  | _ => return false

/-- Any word at all, as after a point. -/
def anyWord : Parse source (String × Span) := do
  let cursor ← get
  match cursor.token with
  | .word name _ =>
    advance
    return (name, cursor.span)
  | _ => unexpected

def name : Parse source (String × Span) := do
  if ← atName then anyWord else unexpected

def bindingName : Parse source (String × Span) := do
  match ← token with
  | .word text _ => require (!isRestricted text)
  | _ => pure ()
  name

def stringLiteral : Parse source Unit := do
  match ← token with
  | .string _ => advance
  | _ => unexpected

end Parse

end LogicFree.Script
