/-! Code points, halves of surrogate pairs included, and the texts they make. -/

namespace LogicFree.Text

def isHighSurrogate (code : Nat) : Bool := 0xd800 ≤ code && code ≤ 0xdbff

def isLowSurrogate (code : Nat) : Bool := 0xdc00 ≤ code && code ≤ 0xdfff

def isSurrogate (code : Nat) : Bool := isHighSurrogate code || isLowSurrogate code

/-- The character that a surrogate pair stands for. -/
def joinSurrogates (high low : Nat) : Char :=
  Char.ofNat (0x10000 + (high - 0xd800) * 0x400 + (low - 0xdc00))

/-- The characters of a sequence of code points. Two halves that meet make one
character, and a half without its other half makes no text. -/
def ofCodePoints? : List Nat → Option (List Char)
  | [] => some []
  | [code] => if isSurrogate code then none else some [Char.ofNat code]
  | code :: next :: rest =>
    if isHighSurrogate code && isLowSurrogate next then
      (ofCodePoints? rest).map (joinSurrogates code next :: ·)
    else if isSurrogate code then none
    else (ofCodePoints? (next :: rest)).map (Char.ofNat code :: ·)

/-- The characters of a sequence of code points, with the replacement character
for every half of a surrogate pair. -/
def ofCodePointsLossy (codes : List Nat) : List Char :=
  codes.map fun code => if isSurrogate code then Char.ofNat 0xfffd else Char.ofNat code

end LogicFree.Text
