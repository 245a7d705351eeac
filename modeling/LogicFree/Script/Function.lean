import LogicFree.Script.Typing

/-! Binding patterns, functions and classes. Of a pattern the place is kept, of
functions and classes nothing. -/

namespace LogicFree.Script.Grammar

open Parse

variable {source : List Char}

def default? (g : Grammar source) (context : Context) : Parse source Unit := do
  if ← eatMark "=" then
    let _ ← g.single context.bracketed

def bindingElement (g : Grammar source) (context : Context) : Parse source Unit := do
  let _ ← g.binding context
  g.default? context

/-- One property of an object pattern. A rest property takes a plain name and is
the last one. -/
def propertyBinding (g : Grammar source) (context : Context) : Parse source Unit := do
  if ← eatMark "..." then
    let _ ← bindingName
    require (← isMark "\x7d")
  else if (← atName) && !(← nextIsMark ":") then
    let _ ← bindingName
    g.default? context
  else
    let _ ← g.memberName context
    expectMark ":"
    g.bindingElement context

/-- One place of an array pattern, which may be left empty. A rest binding is the
last one. -/
def arrayBinding (g : Grammar source) (context : Context) : Parse source Unit := do
  if (← isMark ",") then return ()
  if ← eatMark "..." then
    let _ ← g.binding context
    require (← isMark "]")
  else g.bindingElement context

def bindingRule (g : Grammar source) (context : Context) : Parse source Binding := do
  let start ← start
  if ← eatMark "\x7b" then
    commaList "\x7d" (g.propertyBinding context)
    return .pattern (← spanFrom start)
  else if ← eatMark "[" then
    commaList "]" (g.arrayBinding context)
    return .pattern (← spanFrom start)
  else
    let (name, span) ← bindingName
    return .identifier name span

/-- The body of a function, or a semicolon where a described function has none. -/
def functionBody (g : Grammar source) (context : Context) : Parse source Unit := do
  if context.typed && !(← isMark "\x7b") then semicolon .unexpected
  else g.block context

def functionTail (g : Grammar source) (context : Context) : Parse source Unit := do
  g.signature context
  g.functionBody context

/-- A function from its keyword on. The name is left out where `named` is false
and there is none. -/
def functionRule (g : Grammar source) (context : Context) (async named : Bool) : Parse source Unit := do
  expectWord "function"
  let generator ← eatMark "*"
  if named || (← atName) then
    let _ ← bindingName
  let inner := context.function async generator false
  g.signature inner
  if named then g.functionBody inner else g.block inner

/-- The words that may stand before the name of a class member. -/
def isModifier (context : Context) (text : String) : Bool :=
  ["static", "async", "get", "set"].contains text ||
    (context.typed &&
      ["public", "private", "protected", "readonly", "abstract", "declare", "override",
        "accessor"].contains text)

inductive Accessor where
  | getter
  | setter
deriving Repr, DecidableEq

def Accessor.ofWord? : String → Option Accessor
  | "get" => some .getter
  | "set" => some .setter
  | _ => none

/-- The parameters of an accessor: none to read, one to write. -/
def accessorParameters (g : Grammar source) (context : Context) (accessor : Accessor) :
    Parse source Unit := do
  expectMark "("
  if accessor == .setter then
    g.parameter context
    let _ ← eatMark ","
  expectMark ")"

structure Modifiers where
  isStatic : Bool := false
  async : Bool := false
  generator : Bool := false
  accessor : Option Accessor := none

/-- A member that cannot be a field. -/
def Modifiers.isMethod (found : Modifiers) : Bool :=
  found.async || found.generator || found.accessor.isSome

/-- Whether a word is one more modifier, by the token that follows it. No modifier
comes after those that make a method, and none of the common ones comes twice. -/
def Modifiers.takes (found : Modifiers) (context : Context) (text : String)
    (following : Cursor source) : Bool :=
  isModifier context text && !found.isMethod && !(found.isStatic && text == "static") &&
    !(text == "async" && following.newline) &&
    (following.token.beginsMember ||
      (following.token == .mark "*" && (Accessor.ofWord? text).isNone))

def Modifiers.add (found : Modifiers) (text : String) : Modifiers :=
  { found with
    isStatic := found.isStatic || text == "static"
    async := text == "async"
    accessor := Accessor.ofWord? text }

def modifiers (context : Context) : Parse source Modifiers := do
  let found ← repeated (fun (found : Modifiers) => do
    match ← token with
    | .word text false =>
      if found.takes context text (← get).advance then
        advance
        return some (found.add text)
      else return none
    | _ => return none) {}
  return { found with generator := ← eatMark "*" }

def atKeySignature (context : Context) : Parse source Bool := do
  if !context.typed || !(← isMark "[") then return false
  let following := (← get).advance
  match following.token with
  | .word .. => return following.advance.token == .mark ":"
  | _ => return false

/-- The name of a class member, which may be private. No private name is that of
the constructor. -/
def classMemberName (g : Grammar source) (context : Context) : Parse source (Option String) := do
  match ← token with
  | .hashWord text =>
    require (text ≠ "constructor")
    advance
    return none
  | _ => g.memberName context

def methodTail (g : Grammar source) (context : Context) (accessor : Option Accessor) : Parse source Unit := do
  match accessor with
  | some accessor =>
    g.accessorParameters context accessor
    g.result? context
    g.functionBody context
  | none => g.functionTail context

def classMember (g : Grammar source) (context : Context) : Parse source Unit := do
  if ← eatMark ";" then return ()
  if ← isWord "static" then
    if ← nextIsMark "\x7b" then
      advance
      return ← g.block { context.function false false true with returns := false }
  let found ← modifiers context
  if ← atKeySignature context then
    g.bracketedMember context
    g.annotation context
    return ← semicolon .unexpected
  let isConstructor := (← g.classMemberName context) == some "constructor" && !found.isStatic
  if context.typed then
    if (← isMark "?") || (← isMark "!") then advance
  if (← isMark "(") || (context.typed && (← isMark "<")) then
    require !(isConstructor && found.isMethod)
    g.methodTail (context.function found.async found.generator true) found.accessor
  else
    require !(isConstructor || found.isMethod)
    g.annotation? context
    if ← eatMark "=" then
      let _ ← g.single (context.function false false true)
    semicolon .unexpected

def classTail (g : Grammar source) (context : Context) : Parse source Unit := do
  g.typeParameters? context
  if ← eatWord "extends" then
    let _ ← plain (← g.access context.bracketed true)
    if context.typed && (← atOpenAngle) then g.typeArguments context
  if context.typed then
    if ← eatWord "implements" then
      whileDo do
        g.typeReference context
        eatMark ","
  expectMark "\x7b"
  whileDo do
    if ← eatMark "\x7d" then return false
    g.classMember context
    return true

def classRule (g : Grammar source) (context : Context) (named : Bool) : Parse source Unit := do
  expectWord "class"
  if named || ((← atName) && !(context.typed && (← isWord "implements"))) then
    let _ ← bindingName
  g.classTail context

end LogicFree.Script.Grammar
