import LogicFree.Number.Double
import LogicFree.Script.Character

/-! Number literals. They are made of ASCII characters only, so that characters
and bytes agree. -/

namespace LogicFree.Script

inductive NumberLiteral where
  | double (bits : UInt64)
  | bigint
deriving Repr, DecidableEq

namespace NumberLiteral

/-- Digits of a base with separators among them. A separator stands between two
digits, so the digits may neither begin nor end with one nor hold two in a row. -/
def digits? (base : Nat) (text : List Char) : Option (List Char × List Char) :=
  let taken := text.takeWhile fun c => isDigitOf base c || c = '_'
  if taken.isEmpty || taken.head? = some '_' || taken.getLast? = some '_' || doubled taken then none
  else some (taken.filter (· ≠ '_'), text.drop taken.length)
where
  doubled : List Char → Bool
    | '_' :: '_' :: _ => true
    | _ :: rest => doubled rest
    | [] => false

def whole (base : Nat) (digits : List Char) : NumberLiteral :=
  .double (Number.wholeBits base (digits.map fun c => (digitValue? c).getD 0))

/-- Nothing that belongs to a name or a number may follow a literal directly. -/
def ends (rest : List Char) : Bool :=
  match rest with
  | [] => true
  | c :: _ => !(isNameStart c || c.isDigit || c = '\\')

/-- A literal in base two, eight or sixteen, after its mark. -/
def radix? (base : Nat) (text : List Char) : Option (NumberLiteral × List Char) := do
  let (digits, rest) ← digits? base text
  match rest with
  | 'n' :: rest => if ends rest then some (.bigint, rest) else none
  | rest => if ends rest then some (whole base digits, rest) else none

/-- The digits after a point. There may be none. -/
def fraction? : List Char → Option (List Char × List Char)
  | [] => some ([], [])
  | c :: rest => if c.isDigit || c = '_' then digits? 10 (c :: rest) else some ([], c :: rest)

/-- The exponent of a decimal literal, if there is one. -/
def exponent? : List Char → Option (Option Int × List Char)
  | c :: '+' :: rest =>
    if c = 'e' || c = 'E' then magnitude rest |>.map fun (value, rest) => (some value, rest)
    else some (none, c :: '+' :: rest)
  | c :: '-' :: rest =>
    if c = 'e' || c = 'E' then magnitude rest |>.map fun (value, rest) => (some (-value), rest)
    else some (none, c :: '-' :: rest)
  | c :: rest =>
    if c = 'e' || c = 'E' then magnitude rest |>.map fun (value, rest) => (some value, rest)
    else some (none, c :: rest)
  | [] => some (none, [])
where
  magnitude (text : List Char) : Option (Int × List Char) :=
    (digits? 10 text).map fun (digits, rest) => (Int.ofNat (readDigits 10 digits), rest)

/-- The value of a decimal literal with a fraction or an exponent. -/
def decimal (digits fraction : List Char) (exponent : Int) : NumberLiteral :=
  .double (Number.decimalBits (readDigits 10 (digits ++ fraction)) (exponent - fraction.length))

/-- A point with the digits after it, if one follows the whole part of a literal. -/
def point? : List Char → Option (List Char × Bool × List Char)
  | '.' :: rest => (fraction? rest).map fun (fraction, rest) => (fraction, true, rest)
  | rest => some ([], false, rest)

/-- The end of a decimal literal, after its digits. -/
def ending? (digits fraction : List Char) (pointed : Bool) (text : List Char) :
    Option (NumberLiteral × List Char) := do
  match ← exponent? text with
  | (some exponent, rest) =>
    if ends rest then some (decimal digits fraction exponent, rest) else none
  | (none, 'n' :: rest) =>
    if !pointed && ends rest then some (.bigint, rest) else none
  | (none, rest) =>
    if !ends rest then none
    else if pointed then some (decimal digits fraction 0, rest)
    else some (whole 10 digits, rest)

/-- What may follow the whole part of a decimal literal. -/
def afterWhole? (digits : List Char) (text : List Char) : Option (NumberLiteral × List Char) := do
  let (fraction, pointed, rest) ← point? text
  ending? digits fraction pointed rest

/-- Reads a literal that begins with a digit, or with a point and a digit. A
zero cannot be followed by a digit or a separator. -/
def read? : List Char → Option (NumberLiteral × List Char)
  | '0' :: c :: rest =>
    if c = 'x' || c = 'X' then radix? 16 rest
    else if c = 'o' || c = 'O' then radix? 8 rest
    else if c = 'b' || c = 'B' then radix? 2 rest
    else if c.isDigit || c = '_' then none
    else afterWhole? ['0'] (c :: rest)
  | '.' :: rest => afterWhole? [] ('.' :: rest)
  | text => do
    let (digits, rest) ← digits? 10 text
    afterWhole? digits rest

end NumberLiteral

end LogicFree.Script
