/-! Lines and columns of byte offsets. -/

namespace LogicFree

/-- A place in a text. Lines and columns count from one, columns in characters. -/
structure Location where
  line : Nat
  column : Nat
deriving Repr, DecidableEq

namespace Location

def advance (location : Location) (c : Char) : Location :=
  if c = '\n' then ⟨location.line + 1, 1⟩ else ⟨location.line, location.column + 1⟩

/-- Passes every character that begins before the offset. `index` is the byte
offset of the first character. -/
def after (offset : Nat) : List Char → Nat → Location → Location
  | [], _, location => location
  | c :: rest, index, location =>
    if offset ≤ index then location
    else after offset rest (index + c.utf8Size) (location.advance c)

/-- The place of a byte offset. An offset beyond the end has the place of the
end, and one inside a character the place after it. -/
def ofOffset (source : String) (offset : Nat) : Location :=
  after offset source.toList 0 ⟨1, 1⟩

end Location

end LogicFree
