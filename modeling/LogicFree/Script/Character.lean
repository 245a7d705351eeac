import LogicFree.Text.Blank
import LogicFree.Text.IdentifierPart
import LogicFree.Text.IdentifierStart

/-! The character classes of the script language. -/

namespace LogicFree.Script

def isLineEnd (c : Char) : Bool :=
  c = '\n' || c = '\r' || c.toNat = 0x2028 || c.toNat = 0x2029

/-- The characters between two tokens, line ends included. -/
def isSpace (c : Char) : Bool :=
  Text.isBlank c || c.toNat = 0xfeff

def isNameStart (c : Char) : Bool :=
  c = '$' || c = '_' || Text.isIdentifierStart c

/-- Characters that may continue a name, the two joiners among them. -/
def isNamePart (c : Char) : Bool :=
  c = '$' || Text.isIdentifierPart c || c.toNat = 0x200c || c.toNat = 0x200d

def digitValue? (c : Char) : Option Nat :=
  if '0' ≤ c && c ≤ '9' then some (c.toNat - 48)
  else if 'a' ≤ c && c ≤ 'f' then some (c.toNat - 87)
  else if 'A' ≤ c && c ≤ 'F' then some (c.toNat - 55)
  else none

def isDigitOf (base : Nat) (c : Char) : Bool :=
  match digitValue? c with
  | some value => value < base
  | none => false

/-- The number written by digits of a base, the highest first. -/
def readDigits (base : Nat) (digits : List Char) : Nat :=
  digits.foldl (fun total c => total * base + (digitValue? c).getD 0) 0

end LogicFree.Script
