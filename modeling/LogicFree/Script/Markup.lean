import LogicFree.Script.Typing
import LogicFree.Text.CharacterReference

/-! Markup: elements and fragments, their attributes and their children. The
text between tags is read character by character. -/

namespace LogicFree.Script

/-- One character of markup text, or one character reference. -/
def readMarkupChar (input : Input) (c : Char) : Nat × Input :=
  if c = '&' then
    let rest := input.chars.drop 1
    match Text.CharacterReference.read? rest with
    | some (code, after) => (code, input.drop (1 + (rest.length - after.length)))
    | none => (c.toNat, input.drop 1)
  else (c.toNat, input.drop 1)

theorem readMarkupChar_ahead {input rest : Input} {c : Char} {code : Nat}
    (found : readMarkupChar input c = (code, rest)) : input.Ahead rest := by
  unfold readMarkupChar at found
  split at found
  · dsimp only at found
    split at found <;> cases found <;> exact input.drop_ahead _
  · cases found
    exact input.drop_ahead 1

/-- The text of a quoted attribute value up to its closing quote, which is
passed. There are no escapes in it. -/
def readQuoted? (quote : Char) : (bound : Nat) → Input → List Nat → Option (List Nat × Input)
  | 0, _, _ => none
  | bound + 1, input, taken =>
    match input.chars with
    | [] => none
    | c :: _ =>
      if c = quote then some (taken.reverse, input.drop 1)
      else
        let (code, rest) := readMarkupChar input c
        readQuoted? quote bound rest (code :: taken)

theorem readQuoted?_ahead {quote : Char} {bound : Nat} {input rest : Input} {taken codes : List Nat}
    (found : readQuoted? quote bound input taken = some (codes, rest)) : input.Ahead rest := by
  fun_induction readQuoted? quote bound input taken with
  | case1 | case2 => cases found
  | case3 =>
    cases found
    exact Input.drop_ahead _ 1
  | case4 bound input taken c tail opened _ code after read ih =>
    exact (readMarkupChar_ahead read).trans (ih found)

/-- The text of a child up to a brace or a tag. A closing brace and a closing
angle bracket cannot stand in text. -/
def readMarkupText : (bound : Nat) → Input → List Nat → Except Fault (List Nat × Input)
  | 0, input, _ => .error ⟨.unexpected, ⟨input.pos, input.pos⟩⟩
  | bound + 1, input, taken =>
    match input.chars with
    | [] => .ok (taken.reverse, input)
    | c :: _ =>
      if c = '\x7b' || c = '<' then .ok (taken.reverse, input)
      else if c = '\x7d' then .error ⟨.strayBrace, ⟨input.pos, input.pos⟩⟩
      else if c = '>' then .error ⟨.strayAngle, ⟨input.pos, input.pos⟩⟩
      else
        let (code, rest) := readMarkupChar input c
        readMarkupText bound rest (code :: taken)

theorem readMarkupText_ahead {bound : Nat} {input rest : Input} {taken codes : List Nat}
    (found : readMarkupText bound input taken = .ok (codes, rest)) : input.Ahead rest := by
  fun_induction readMarkupText bound input taken with
  | case1 | case4 | case5 => cases found
  | case2 | case3 =>
    cases found
    exact .refl _
  | case6 bound input taken c tail opened _ _ _ code after read ih =>
    exact (readMarkupChar_ahead read).trans (ih found)

namespace Grammar

open Parse

variable {source : List Char}

def tagWord : Parse source (String × Span) := do
  let cursor ← get
  match found : readTagName? cursor.bound cursor.here.toInput with
  | some (name, after) =>
    resume (cursor.here.reach after (readNameWith?_ahead found))
    return (name.text, ⟨cursor.here.pos, after.pos⟩)
  | none => unexpected

def tagName : Parse source TagName := do
  let (first, span) ← tagWord
  if ← eatMark ":" then
    let (name, last) ← tagWord
    return .namespaced first name ⟨span.start, last.stop⟩
  if !(← isMark ".") then return .plain first span
  let parts ← repeated (fun parts => do
    if ← eatMark "." then return some ((← tagWord).1 :: parts) else return none) [first]
  return .dotted parts.reverse (← spanFrom span.start)

/-- Whether the current token begins with a closing angle bracket. -/
def atCloseAngle : Parse source Bool := do
  return (← get).here.chars.head? = some '>'

def afterCloseAngle : Parse source (Place source) := do
  if ← atCloseAngle then return (← get).here.skip 1 else unexpected

/-- Requires the brace that closes an embedded expression, and returns the place
after it. -/
def afterBrace : Parse source (Place source) := do
  require (← isMark "\x7d")
  return (← get).next

def attributeValue (g : Grammar source) (context : Context) : Parse source AttributeValue := do
  let cursor ← get
  match cursor.here.chars with
  | '\x22' :: _ => quoted cursor '\x22'
  | '\x27' :: _ => quoted cursor '\x27'
  | '\x7b' :: _ =>
    advance
    let expr ← g.expression context.bracketed
    expectMark "\x7d"
    return .expression expr
  | '<' :: _ =>
    openAngle
    let (found, after) ← g.markup context cursor.here.pos
    resume after
    match found with
    | .element inner => return .element inner
    | .fragment span => return .fragment span
  | _ => unexpected
where
  quoted (cursor : Cursor source) (quote : Char) : Parse source AttributeValue := do
    let opening := cursor.here.skip 1
    match found : readQuoted? quote cursor.bound opening.toInput [] with
    | some (codes, after) =>
      resume (opening.reach after (readQuoted?_ahead found))
      return .string ((Text.ofCodePoints? codes).map String.ofList) ⟨cursor.here.pos, after.pos⟩
    | none => unexpected

def attributeRule (g : Grammar source) (context : Context) : Parse source Attribute := do
  if ← eatMark "\x7b" then
    let start ← start
    expectMark "..."
    let expr ← g.single context.bracketed
    expectMark "\x7d"
    return .spread ⟨start, expr.span.stop⟩
  let (first, span) ← tagWord
  let name ← if ← eatMark ":" then pure (.namespaced first (← tagWord).1)
    else pure (AttributeName.plain first)
  let value ← if ← eatMark "=" then g.attributeValue context else pure .absent
  return .named name value (← spanFrom span.start)

def attributes (g : Grammar source) (context : Context) : Parse source (List Attribute) := do
  let found ← repeated (fun found => do
    if (← atCloseAngle) || (← isMark "/") then return none
    return some ((← g.attributeRule context) :: found)) []
  return found.reverse

/-- The text from a place on, if it is not empty. -/
def textChild? (place : Place source) : Parse source (List Child × Place source) := do
  match found : readMarkupText ((← get).bound + 1) place.toInput [] with
  | .error fault => throw fault
  | .ok (codes, after) =>
    let rest := place.reach after (readMarkupText_ahead found)
    if rest.pos = place.pos then return ([], rest)
    return ([.text (String.ofList (Text.ofCodePointsLossy codes)) ⟨place.pos, rest.pos⟩], rest)

def braceChild (g : Grammar source) (context : Context) (start : Nat) : Parse source (Child × Place source) := do
  expectMark "\x7b"
  if ← isMark "\x7d" then
    let after ← afterBrace
    return (.empty ⟨start, after.pos⟩, after)
  if ← eatMark "..." then
    let _ ← g.expression context.bracketed
    let after ← afterBrace
    return (.spread ⟨start, after.pos⟩, after)
  let expr ← g.expression context.bracketed
  return (.expression expr, ← afterBrace)

/-- The children that have been read, the last one first, and what follows. -/
structure Children (source : List Char) where
  found : List Child
  place : Place source
  closed : Bool

def nextChild (g : Grammar source) (context : Context) (state : Children source) :
    Parse source (Option (Children source)) := do
  if state.closed then return none
  let (text, place) ← textChild? state.place
  let found := text ++ state.found
  match place.chars with
  | '<' :: _ =>
    resume (place.skip 1)
    if ← isMark "/" then return some { found, place, closed := true }
    let (child, after) ← g.markup context place.pos
    match child with
    | .element inner =>
      return some { found := .element inner :: found, place := after, closed := false }
    | .fragment span =>
      return some { found := .fragment span :: found, place := after, closed := false }
  | '\x7b' :: _ =>
    resume place
    let (child, after) ← g.braceChild context place.pos
    return some { found := child :: found, place := after, closed := false }
  | _ => throw ⟨.unclosedElement, ⟨place.pos, place.pos⟩⟩

/-- The children of an element or a fragment. Afterwards the slash of the closing
tag has been passed. -/
def children (g : Grammar source) (context : Context) (place : Place source) :
    Parse source (List Child) := do
  let state ← repeated (g.nextChild context) { found := [], place, closed := false }
  expectMark "/"
  return state.found.reverse

def fragment (g : Grammar source) (context : Context) (start : Nat) : Parse source (Markup × Place source) := do
  let _ ← g.children context (← afterCloseAngle)
  let after ← afterCloseAngle
  return (.fragment ⟨start, after.pos⟩, after)

/-- The closing tag of an element after its slash. It has to repeat the name. -/
def closingTag (opening : TagName) : Parse source (Place source) := do
  if ← atCloseAngle then failWith (.closingTag opening.text)
  let closing ← tagName
  if closing.text ≠ opening.text then throw ⟨.closingTag opening.text, closing.span⟩
  afterCloseAngle

/-- An element after its name and the types that may follow it. -/
def elementTail (g : Grammar source) (context : Context) (start : Nat) (name : TagName) :
    Parse source (Markup × Place source) := do
  let attributes ← g.attributes context
  if ← eatMark "/" then
    let after ← afterCloseAngle
    return (.element ⟨name, attributes, [], true, ⟨start, after.pos⟩⟩, after)
  let children ← g.children context (← afterCloseAngle)
  let after ← closingTag name
  return (.element ⟨name, attributes, children, false, ⟨start, after.pos⟩⟩, after)

/-- An element or a fragment after the bracket that opens it. -/
def markupRule (g : Grammar source) (context : Context) (start : Nat) : Parse source (Markup × Place source) := do
  if ← atCloseAngle then return ← g.fragment context start
  let name ← tagName
  if context.typed && (← isMark "<") then g.typeArguments context
  g.elementTail context start name

end Grammar

end LogicFree.Script
