import LogicFree.Script.Module
import LogicFree.Script.Reader

/-! Reading a whole source file. -/

namespace LogicFree.Script

variable {source : List Char}

/-- The grammar for sources of limited nesting. Every rule hands on the grammar
of the next level, which is built only when it is needed. -/
def Grammar.ofDepth : Nat → Grammar source
  | 0 => .exhausted
  | depth + 1 =>
    { binary := fun context precedence => (ofDepth depth).binaryRule context precedence
      unary := fun context => (ofDepth depth).unaryRule context
      access := fun context calls => (ofDepth depth).accessRule context calls
      assignment := fun context => (ofDepth depth).assignmentRule context
      binding := fun context => (ofDepth depth).bindingRule context
      statement := fun context => (ofDepth depth).statementRule context
      moduleItem := fun context => (ofDepth depth).moduleItemRule context
      type := fun context => (ofDepth depth).typeRule context
      markup := fun context start => (ofDepth depth).markupRule context start }

def Grammar.program (g : Grammar source) (context : Context) : Parse source (List Statement) := do
  let body ← Parse.repeated (fun body => do
    if (← Parse.token) == .finish then return none
    return some ((← g.moduleItem context) :: body)) []
  return body.reverse

namespace Program

/-- The place of a whole file: from its first token to its last. A line that
names an interpreter belongs to it. -/
def spanOf (opening : Input) (first : Cursor source) (last : Nat) : Span :=
  if 0 < opening.pos then ⟨0, max opening.pos last⟩
  else if first.token = .finish then ⟨0, 0⟩
  else ⟨first.here.pos, last⟩

/-- Reads a source. Every step inwards passes a token, so that a multiple of the
length bounds the nesting. -/
def parse : Reader := fun dialect source =>
  let chars := withoutMark source.toList
  let opening : Place chars := ⟨Input.skipInterpreter ⟨chars, 0⟩, Input.skipInterpreter_ahead _⟩
  let bound := chars.length + 1
  let first := Cursor.find (Nat.lt_succ_self chars.length) opening opening.pos
  let context : Context := { typed := dialect = .tsx }
  match (Grammar.ofDepth (4 * bound + 16)).program context first with
  | .error fault => .error ⟨fault.diagnostic.text, fault.span⟩
  | .ok (body, cursor) => .ok ⟨body, spanOf opening.toInput first cursor.last⟩

end Program

end LogicFree.Script
