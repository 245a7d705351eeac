import LogicFree.Script.Escape
import LogicFree.Script.Fault
import LogicFree.Script.Number

/-! Tokens of the script language. Regular expressions, the texts of template
literals and everything inside markup depend on where they stand, and are read
from the input itself. -/

namespace LogicFree.Script

inductive Token where
  | word (name : String) (escaped : Bool)
  | hashWord (name : String)
  | number (bits : UInt64)
  | bigint
  | string (value : Option String)
  | mark (text : String)
  | tick
  | finish
  /-- Characters that make no token. -/
  | invalid
deriving Repr, DecidableEq

def Token.beginsMember : Token → Bool
  | .word .. | .string _ | .number _ | .bigint | .hashWord _ => true
  | .mark text => text == "["
  | .tick | .finish | .invalid => false

/-- The marks of the language, a longer one before each of its beginnings. -/
def marks : List (List Char) :=
  [['>', '>', '>', '='],
    ['.', '.', '.'], ['=', '=', '='], ['!', '=', '='], ['*', '*', '='], ['<', '<', '='],
    ['>', '>', '='], ['>', '>', '>'], ['&', '&', '='], ['|', '|', '='], ['?', '?', '='],
    ['=', '>'], ['=', '='], ['!', '='], ['<', '='], ['>', '='], ['&', '&'], ['|', '|'],
    ['?', '?'], ['?', '.'], ['+', '+'], ['-', '-'], ['+', '='], ['-', '='], ['*', '='],
    ['/', '='], ['%', '='], ['&', '='], ['|', '='], ['^', '='], ['<', '<'], ['>', '>'],
    ['*', '*'],
    ['\x7b'], ['\x7d'], ['('], [')'], ['['], [']'], ['.'], [';'], [','], ['<'], ['>'], ['+'],
    ['-'], ['*'], ['/'], ['%'], ['&'], ['|'], ['^'], ['!'], ['~'], ['?'], [':'], ['=']]

/-- The longest mark at the front of a text. A question mark and a point are two
marks if a digit follows them. -/
def markAt? (chars : List Char) : Option (List Char) :=
  match marks.find? (·.isPrefixOf chars) with
  | some ['?', '.'] =>
    if (chars[2]?).any Char.isDigit then some ['?'] else some ['?', '.']
  | found => found

/-- The old comment marks are refused: one anywhere, the other at the front of a line. -/
def isOldComment (newline : Bool) (chars : List Char) : Bool :=
  ['<', '!', '-', '-'].isPrefixOf chars || (newline && ['-', '-', '>'].isPrefixOf chars)

def readToken (bound : Nat) (newline : Bool) (input : Input) : Token × Input :=
  match input.chars with
  | [] => (.finish, input)
  | c :: rest =>
    if isNameStart c || c = '\\' then
      match readName? bound input with
      | some (name, after) => (.word name.text name.escaped, after)
      | none => (.invalid, input.drop 1)
    else if c.isDigit || (c = '.' && rest.head?.any Char.isDigit) then
      match NumberLiteral.read? input.chars with
      | some (literal, after) =>
        let next := input.drop (input.chars.length - after.length)
        match literal with
        | .double bits => (.number bits, next)
        | .bigint => (.bigint, next)
      | none => (.invalid, input.drop 1)
    else if c = '\x22' || c = '\x27' then
      match readString? c bound (input.drop 1) [] with
      | some (codes, after) =>
        (.string ((Text.ofCodePoints? codes).map String.ofList), after)
      | none => (.invalid, input.drop 1)
    else if c = '\x60' then (.tick, input.drop 1)
    else if c = '#' then
      match readName? bound (input.drop 1) with
      | some (name, after) => (.hashWord name.text, after)
      | none => (.invalid, input.drop 1)
    else if isOldComment newline input.chars then (.invalid, input.drop 1)
    else
      match markAt? input.chars with
      | some chars => (.mark (String.ofList chars), input.drop chars.length)
      | none => (.invalid, input.drop 1)

theorem readToken_ahead (bound : Nat) (newline : Bool) (input : Input) :
    input.Ahead (readToken bound newline input).2 := by
  unfold readToken
  split
  · exact .refl input
  split
  · split
    next name after found => exact readNameWith?_ahead found
    next => exact input.drop_ahead 1
  split
  · split
    next literal after found => cases literal <;> exact input.drop_ahead _
    next => exact input.drop_ahead 1
  split
  · split
    next codes after found => exact (input.drop_ahead 1).trans (readString?_ahead found)
    next => exact input.drop_ahead 1
  split
  · exact input.drop_ahead 1
  split
  · split
    next name after found => exact (input.drop_ahead 1).trans (readNameWith?_ahead found)
    next => exact input.drop_ahead 1
  split
  · exact input.drop_ahead 1
  · split <;> exact input.drop_ahead _

variable {source : List Char}

/-- A token in its surroundings. -/
structure Cursor (source : List Char) where
  token : Token
  here : Place source
  next : Place source
  /-- Where the token before ends. -/
  last : Nat
  /-- Whether a line ends between the two. -/
  newline : Bool
  /-- A bound on the length of the source. -/
  bound : Nat
  enough : source.length < bound
  /-- The token is what stands at its place, if anything can be read there. -/
  read : token = .invalid ∨ readToken bound newline here.toInput = (token, next.toInput)

namespace Cursor

def span (cursor : Cursor source) : Span := ⟨cursor.here.pos, cursor.next.pos⟩

/-- The first token from a place on. -/
def find {bound : Nat} (enough : source.length < bound) (place : Place source) (last : Nat) :
    Cursor source :=
  let trivia := skipTrivia .between place.chars place.pos false
  let here := place.reach trivia.input (skipTrivia_ahead ..)
  if trivia.closed then
    let found := readToken bound trivia.newline here.toInput
    { token := found.1, here, next := here.reach found.2 (readToken_ahead ..), last
      newline := trivia.newline, bound, enough, read := .inr rfl }
  else
    { token := .invalid, here, next := here, last, newline := trivia.newline, bound, enough
      read := .inl rfl }

def advance (cursor : Cursor source) : Cursor source :=
  find cursor.enough cursor.next cursor.next.pos

end Cursor

end LogicFree.Script
