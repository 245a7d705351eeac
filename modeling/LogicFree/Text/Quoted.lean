/-! Quoted text: a string literal between double quotes, with the escapes of
JSON. Line and paragraph separators are escaped as well, because older readers
of the printed code take them for line ends. -/

namespace LogicFree.Text.Quoted

/-- The lowercase hexadecimal digit of a number below sixteen. -/
def hexDigit (digit : Nat) : Char :=
  if digit < 10 then Char.ofNat (48 + digit) else Char.ofNat (87 + digit)

/-- The last four hexadecimal digits of a number, the highest first. -/
def hexDigits (code : Nat) : List Char :=
  [hexDigit (code / 4096 % 16), hexDigit (code / 256 % 16),
    hexDigit (code / 16 % 16), hexDigit (code % 16)]

/-- Control characters: the first thirty-two, the delete character, and the
thirty-two after it. -/
def isControl (c : Char) : Bool :=
  c.toNat < 0x20 || (0x7f ≤ c.toNat && c.toNat ≤ 0x9f)

/-- Characters that are written by their code. -/
def isCoded (c : Char) : Bool :=
  isControl c || c.toNat = 0x2028 || c.toNat = 0x2029

def escape (c : Char) : List Char :=
  if c = '\x22' then ['\\', '\x22']
  else if c = '\\' then ['\\', '\\']
  else if c = '\n' then ['\\', 'n']
  else if c = '\r' then ['\\', 'r']
  else if c = '\t' then ['\\', 't']
  else if isCoded c then '\\' :: 'u' :: hexDigits c.toNat
  else [c]

/-- The characters of a text between double quotes. -/
def encode (text : List Char) : List Char :=
  '\x22' :: text.flatMap escape ++ ['\x22']

end LogicFree.Text.Quoted

namespace LogicFree

def quote (text : String) : String :=
  String.ofList (Text.Quoted.encode text.toList)

end LogicFree
