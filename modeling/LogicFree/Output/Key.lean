import LogicFree.Output.Basic
import LogicFree.Text.Alphabetic
import LogicFree.Text.Numeric

/-! Property keys made from attribute names. -/

namespace LogicFree.Output

def isKeyStart (c : Char) : Bool :=
  c = '$' || c = '_' || Text.isAlphabetic c

def isKeyPart (c : Char) : Bool :=
  c = '$' || c = '_' || Text.isAlphabetic c || Text.isNumeric c

/-- Whether a name may be written as a key without quotes. -/
def isIdentifierName (name : String) : Bool :=
  match name.toList with
  | [] => false
  | first :: rest => isKeyStart first && rest.all isKeyPart

/-- A name is written bare where it can be. -/
def Key.ofName (name : String) : Key :=
  if isIdentifierName name then .bare name else .quoted name

end LogicFree.Output
