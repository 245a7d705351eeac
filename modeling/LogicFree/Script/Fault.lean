import LogicFree.Span

/-! Why a source cannot be read. -/

namespace LogicFree.Script

/-- The reasons that are told apart. All others are an unexpected token. -/
inductive Diagnostic where
  | unclosedElement
  | closingTag (opening : String)
  | strayBrace
  | strayAngle
  | uninitialized
  | missingSemicolon
  | unexpected
deriving Repr, DecidableEq

def Diagnostic.text : Diagnostic → String
  | .unclosedElement => "Expected '</', got '<eof>'"
  | .closingTag opening => "Expected corresponding JSX closing tag for <" ++ opening ++ ">"
  | .strayBrace => "Unexpected token. Did you mean `\x7b'\x7d'\x7d` or `&rbrace;`?"
  | .strayAngle => "Unexpected token. Did you mean `\x7b'>'\x7d` or `&gt;`?"
  | .uninitialized => "'const' declarations must be initialized"
  | .missingSemicolon => "Expected ';', '\x7d' or <eof>"
  | .unexpected => "Unexpected token"

structure Fault where
  diagnostic : Diagnostic
  span : Span
deriving Repr, DecidableEq

end LogicFree.Script
