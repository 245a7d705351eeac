import LogicFree.Script.Input
import LogicFree.Text.CodePoint

/-! Names and strings, which may hold characters written by their code. -/

namespace LogicFree.Script

/-- Four hexadecimal digits, or any number of them between braces. The code
point may be half a surrogate pair. The input begins after the letter `u`. -/
def readUnicodeEscape? (input : Input) : Option (Nat × Input) :=
  match input.chars with
  | '\x7b' :: rest =>
    let digits := rest.takeWhile (isDigitOf 16)
    let code := readDigits 16 digits
    if digits.isEmpty || rest[digits.length]? ≠ some '\x7d' || 0x10ffff < code then none
    else some (code, input.drop (digits.length + 2))
  | chars =>
    let digits := chars.take 4
    if digits.length = 4 && digits.all (isDigitOf 16) then
      some (readDigits 16 digits, input.drop 4)
    else none

theorem readUnicodeEscape?_ahead {input rest : Input} {code : Nat}
    (found : readUnicodeEscape? input = some (code, rest)) : input.Ahead rest := by
  unfold readUnicodeEscape? at found
  split at found
  all_goals
    dsimp only at found
    split at found <;> cases found
    exact input.drop_ahead _

structure Name where
  text : String
  /-- Whether a character was written by its code. Such a name is no keyword. -/
  escaped : Bool
deriving Repr, DecidableEq

/-- The next character of a name, given by a test for its place. -/
def readNameChar? (test : Char → Bool) (input : Input) : Option (Char × Bool × Input) :=
  match input.chars with
  | '\\' :: 'u' :: _ =>
    match readUnicodeEscape? (input.drop 2) with
    | some (code, rest) =>
      if !Text.isSurrogate code && test (Char.ofNat code) then some (Char.ofNat code, true, rest)
      else none
    | none => none
  | c :: _ => if test c then some (c, false, input.drop 1) else none
  | [] => none

theorem readNameChar?_ahead {test : Char → Bool} {input rest : Input} {c : Char} {coded : Bool}
    (found : readNameChar? test input = some (c, coded, rest)) : input.Ahead rest := by
  unfold readNameChar? at found
  split at found
  · split at found
    next escaped =>
      split at found <;> cases found
      exact (input.drop_ahead 2).trans (readUnicodeEscape?_ahead escaped)
    next => cases found
  · split at found <;> cases found
    exact input.drop_ahead 1
  · cases found

/-- The characters of a name after its first, at most `bound` of them. -/
def readNameParts (test : Char → Bool) : (bound : Nat) → Input → List Char → Bool →
    List Char × Bool × Input
  | 0, input, taken, escaped => (taken.reverse, escaped, input)
  | bound + 1, input, taken, escaped =>
    match readNameChar? test input with
    | none => (taken.reverse, escaped, input)
    | some (c, coded, rest) => readNameParts test bound rest (c :: taken) (escaped || coded)

theorem readNameParts_ahead (test : Char → Bool) (bound : Nat) (input : Input)
    (taken : List Char) (escaped : Bool) :
    input.Ahead (readNameParts test bound input taken escaped).2.2 := by
  fun_induction readNameParts test bound input taken escaped with
  | case1 | case2 => exact .refl _
  | case3 bound input taken escaped c coded rest found ih =>
    exact (readNameChar?_ahead found).trans ih

def readNameWith? (test : Char → Bool) (bound : Nat) (input : Input) : Option (Name × Input) := do
  let (first, coded, rest) ← readNameChar? isNameStart input
  let (chars, escaped, rest) := readNameParts test bound rest [first] coded
  return (⟨String.ofList chars, escaped⟩, rest)

theorem readNameWith?_ahead {test : Char → Bool} {bound : Nat} {input rest : Input} {name : Name}
    (found : readNameWith? test bound input = some (name, rest)) : input.Ahead rest := by
  obtain ⟨⟨first, coded, after⟩, opened, found⟩ := Option.bind_eq_some_iff.mp found
  cases found
  exact (readNameChar?_ahead opened).trans (readNameParts_ahead ..)

def readName? : (bound : Nat) → Input → Option (Name × Input) := readNameWith? isNamePart

/-- A name in a tag, which may hold hyphens. -/
def readTagName? : (bound : Nat) → Input → Option (Name × Input) :=
  readNameWith? fun c => isNamePart c || c = '-'

/-- What a backslash and the characters after it stand for: a code point, or
nothing where it joins two lines. The input begins after the backslash. The
octal forms are refused. -/
def readEscape? (input : Input) : Option (Option Nat × Input) :=
  match input.chars with
  | [] => none
  | '\r' :: '\n' :: _ => some (none, input.drop 2)
  | 'x' :: rest =>
    let digits := rest.take 2
    if digits.length = 2 && digits.all (isDigitOf 16) then
      some (some (readDigits 16 digits), input.drop 3)
    else none
  | 'u' :: _ => (readUnicodeEscape? (input.drop 1)).map fun (code, rest) => (some code, rest)
  | '0' :: next :: _ =>
    if isDigitOf 8 next then none else some (some 0, input.drop 1)
  | c :: _ =>
    if isLineEnd c then some (none, input.drop 1)
    else if c = '0' then some (some 0, input.drop 1)
    else if isDigitOf 8 c then none
    else some (some (letterEscape c), input.drop 1)
where
  letterEscape (c : Char) : Nat :=
    if c = 'n' then 10
    else if c = 't' then 9
    else if c = 'r' then 13
    else if c = 'b' then 8
    else if c = 'v' then 11
    else if c = 'f' then 12
    else c.toNat

theorem readEscape?_ahead {input rest : Input} {code : Option Nat}
    (found : readEscape? input = some (code, rest)) : input.Ahead rest := by
  unfold readEscape? at found
  split at found
  case h_1 => cases found
  case h_2 =>
    cases found
    exact input.drop_ahead 2
  case h_3 =>
    dsimp only at found
    split at found <;> cases found
    exact input.drop_ahead 3
  case h_4 =>
    obtain ⟨⟨value, after⟩, escaped, found⟩ := Option.map_eq_some_iff.mp found
    cases found
    exact (input.drop_ahead 1).trans (readUnicodeEscape?_ahead escaped)
  case h_5 =>
    split at found <;> cases found
    exact input.drop_ahead 1
  case h_6 =>
    repeat' split at found
    all_goals cases found
    all_goals exact input.drop_ahead 1

/-- The code points of a string up to its closing quote, which is passed. A line
feed or a carriage return cannot stand in a string. -/
def readString? (quote : Char) : (bound : Nat) → Input → List Nat → Option (List Nat × Input)
  | 0, _, _ => none
  | bound + 1, input, taken =>
    match input.chars with
    | [] => none
    | c :: _ =>
      if c = quote then some (taken.reverse, input.drop 1)
      else if c = '\n' || c = '\r' then none
      else if c = '\\' then
        match readEscape? (input.drop 1) with
        | none => none
        | some (some code, rest) => readString? quote bound rest (code :: taken)
        | some (none, rest) => readString? quote bound rest taken
      else readString? quote bound (input.drop 1) (c.toNat :: taken)

theorem readString?_ahead {quote : Char} {bound : Nat} {input rest : Input} {taken codes : List Nat}
    (found : readString? quote bound input taken = some (codes, rest)) : input.Ahead rest := by
  fun_induction readString? quote bound input taken with
  | case1 | case2 | case4 | case5 => cases found
  | case3 =>
    cases found
    exact Input.drop_ahead _ 1
  | case6 bound input taken tail code after escaped opened _ _ ih
  | case7 bound input taken tail after escaped opened _ _ ih =>
    exact ((input.drop_ahead 1).trans (readEscape?_ahead escaped)).trans (ih found)
  | case8 bound input taken c tail opened _ _ _ ih => exact (input.drop_ahead 1).trans (ih found)

/-- How a stretch of a template literal ends. -/
inductive TemplateEnd where
  | close (after : Input)
  | hole (after : Input)

/-- Passes over the text of a template literal. Only a tagged literal may hold
escapes that mean nothing. -/
def readTemplate? (tagged : Bool) : (bound : Nat) → Input → Option TemplateEnd
  | 0, _ => none
  | bound + 1, input =>
    match input.chars with
    | [] => none
    | '\x60' :: _ => some (.close (input.drop 1))
    | '$' :: '\x7b' :: _ => some (.hole (input.drop 2))
    | '\\' :: _ =>
      match readEscape? (input.drop 1) with
      | some (_, rest) => readTemplate? tagged bound rest
      | none => if tagged then readTemplate? tagged bound (input.drop 2) else none
    | _ => readTemplate? tagged bound (input.drop 1)

def TemplateEnd.after : TemplateEnd → Input
  | .close after => after
  | .hole after => after

theorem readTemplate?_ahead {tagged : Bool} {bound : Nat} {input : Input} {ending : TemplateEnd}
    (found : readTemplate? tagged bound input = some ending) : input.Ahead ending.after := by
  fun_induction readTemplate? tagged bound input with
  | case1 | case2 => cases found
  | case3 | case4 =>
    cases found
    exact Input.drop_ahead _ _
  | case5 bound input tail opened code after escaped ih =>
    exact ((input.drop_ahead 1).trans (readEscape?_ahead escaped)).trans (ih found)
  | case6 bound input tail opened escaped _ ih => exact (input.drop_ahead 2).trans (ih found)
  | case7 => cases found
  | case8 bound input _ _ _ _ ih => exact (input.drop_ahead 1).trans (ih found)

/-- Passes over a regular expression after its first slash, up to the slash that
closes it. A slash between brackets does not close it. -/
def readPattern? (bracketed : Bool) : (bound : Nat) → Input → Option Input
  | 0, _ => none
  | bound + 1, input =>
    match input.chars with
    | [] => none
    | '\\' :: c :: _ => if isLineEnd c then none else readPattern? bracketed bound (input.drop 2)
    | c :: _ =>
      if isLineEnd c || c = '\\' then none
      else if c = '/' && !bracketed then some (input.drop 1)
      else
        let bracketed := if c = '[' then true else if c = ']' then false else bracketed
        readPattern? bracketed bound (input.drop 1)

theorem readPattern?_ahead {bracketed : Bool} {bound : Nat} {input after : Input}
    (found : readPattern? bracketed bound input = some after) : input.Ahead after := by
  fun_induction readPattern? bracketed bound input with
  | case1 | case2 | case3 | case5 => cases found
  | case4 bracketed bound input c tail opened _ ih => exact (input.drop_ahead 2).trans (ih found)
  | case6 =>
    cases found
    exact Input.drop_ahead _ 1
  | case7 bracketed bound input c tail opened _ _ _ _ ih =>
    exact (input.drop_ahead 1).trans (ih found)

/-- The flags of a regular expression: known letters, none of them twice. -/
def validFlags (flags : List Char) : Bool :=
  flags.all (fun c => ['d', 'g', 'i', 'm', 's', 'u', 'v', 'y'].contains c) && flags.Nodup

/-- A whole regular expression from its first slash on. -/
def readRegex? (bound : Nat) (input : Input) : Option Input := do
  let rest ← readPattern? false bound (input.drop 1)
  let (flags, rest) := rest.span isNamePart
  if validFlags flags && rest.chars.head? ≠ some '\\' then some rest else none

theorem readRegex?_ahead {bound : Nat} {input after : Input}
    (found : readRegex? bound input = some after) : input.Ahead after := by
  obtain ⟨rest, pattern, found⟩ := Option.bind_eq_some_iff.mp found
  dsimp only at found
  split at found <;> cases found
  exact ((input.drop_ahead 1).trans (readPattern?_ahead pattern)).trans (rest.drop_ahead _)

end LogicFree.Script
