import LogicFree.Script.Character
import LogicFree.Text.Bytes

/-! A source from some point on, and the blanks and comments in it. -/

namespace LogicFree.Script

/-- The characters that are still to be read, and the byte offset of the first. -/
structure Input where
  chars : List Char
  pos : Nat
deriving Repr, DecidableEq

namespace Input

/-- One input lies ahead of another if it is what is left after some characters, and its
offset counts their bytes. -/
def Ahead (input after : Input) : Prop :=
  ∃ passed, input.chars = passed ++ after.chars ∧ after.pos = input.pos + Text.byteLength passed

theorem Ahead.refl (input : Input) : input.Ahead input := ⟨[], rfl, rfl⟩

theorem Ahead.trans {first second third : Input} (front : first.Ahead second)
    (back : second.Ahead third) : first.Ahead third := by
  obtain ⟨passed, split, moved⟩ := front
  obtain ⟨further, rest, movedOn⟩ := back
  refine ⟨passed ++ further, ?_, ?_⟩
  · rw [split, rest, List.append_assoc]
  · rw [movedOn, moved, Text.byteLength_append, Nat.add_assoc]

def drop (input : Input) (count : Nat) : Input :=
  ⟨input.chars.drop count, input.pos + Text.byteLength (input.chars.take count)⟩

theorem drop_ahead (input : Input) (count : Nat) : input.Ahead (input.drop count) :=
  ⟨input.chars.take count, (List.take_append_drop count input.chars).symm, rfl⟩

/-- The longest opening part whose characters all pass a test, and the rest. -/
def span (input : Input) (test : Char → Bool) : List Char × Input :=
  let taken := input.chars.takeWhile test
  (taken, input.drop taken.length)

end Input

/-- Where the search for the next token stands: between tokens, in a comment
that ends with its line, or in one that ends with a mark of its own. -/
inductive TriviaState where
  | between
  | lineComment
  | blockComment
deriving Repr, DecidableEq

structure Trivia where
  input : Input
  /-- Whether a line ends before the token. -/
  newline : Bool
  /-- Whether every comment has been closed. -/
  closed : Bool

def skipTrivia : TriviaState → List Char → Nat → Bool → Trivia
  | .between, '/' :: '/' :: rest, pos, newline => skipTrivia .lineComment rest (pos + 2) newline
  | .between, '/' :: '*' :: rest, pos, newline => skipTrivia .blockComment rest (pos + 2) newline
  | .blockComment, '*' :: '/' :: rest, pos, newline => skipTrivia .between rest (pos + 2) newline
  | .blockComment, [], pos, newline => ⟨⟨[], pos⟩, newline, false⟩
  | _, [], pos, newline => ⟨⟨[], pos⟩, newline, true⟩
  | .between, c :: rest, pos, newline =>
    if isSpace c then skipTrivia .between rest (pos + c.utf8Size) (newline || isLineEnd c)
    else ⟨⟨c :: rest, pos⟩, newline, true⟩
  | .lineComment, c :: rest, pos, newline =>
    if isLineEnd c then skipTrivia .between rest (pos + c.utf8Size) true
    else skipTrivia .lineComment rest (pos + c.utf8Size) newline
  | .blockComment, c :: rest, pos, newline =>
    skipTrivia .blockComment rest (pos + c.utf8Size) (newline || isLineEnd c)

theorem skipTrivia_ahead (state : TriviaState) (chars : List Char) (pos : Nat) (newline : Bool) :
    Input.Ahead ⟨chars, pos⟩ (skipTrivia state chars pos newline).input := by
  fun_induction skipTrivia state chars pos newline with
  | case1 pos newline rest ih => exact Input.Ahead.trans ⟨['/', '/'], rfl, rfl⟩ ih
  | case2 pos newline rest ih => exact Input.Ahead.trans ⟨['/', '*'], rfl, rfl⟩ ih
  | case3 pos newline rest ih => exact Input.Ahead.trans ⟨['*', '/'], rfl, rfl⟩ ih
  | case4 pos newline => exact Input.Ahead.refl _
  | case5 state pos newline => exact Input.Ahead.refl _
  | case6 c rest pos newline _ _ space ih => exact Input.Ahead.trans ⟨[c], rfl, rfl⟩ ih
  | case7 c rest pos newline => exact Input.Ahead.refl _
  | case8 c rest pos newline _ ih => exact Input.Ahead.trans ⟨[c], rfl, rfl⟩ ih
  | case9 c rest pos newline _ ih => exact Input.Ahead.trans ⟨[c], rfl, rfl⟩ ih
  | case10 c rest pos newline _ ih => exact Input.Ahead.trans ⟨[c], rfl, rfl⟩ ih

/-- The first line of a file is passed over if it names an interpreter. -/
def Input.skipInterpreter (input : Input) : Input :=
  match input.chars with
  | '#' :: '!' :: _ => (input.span fun c => !isLineEnd c).2
  | _ => input

theorem Input.skipInterpreter_ahead (input : Input) : input.Ahead input.skipInterpreter := by
  unfold skipInterpreter
  split
  · exact input.drop_ahead _
  · exact .refl input

/-- A place in a source. -/
structure Place (source : List Char) extends Input where
  ahead : Input.Ahead ⟨source, 0⟩ toInput

/-- Another place, further on. -/
def Place.reach {source : List Char} (place : Place source) (after : Input)
    (further : place.toInput.Ahead after) : Place source :=
  ⟨after, place.ahead.trans further⟩

def Place.skip {source : List Char} (place : Place source) (count : Nat) : Place source :=
  place.reach (place.drop count) (place.drop_ahead count)

end LogicFree.Script
