import LogicFree.Script.Tree

/-! Readers of the script language. The compiler is given one, and what is said of compiled
code rests on laws of the reader and not on how it works. -/

namespace LogicFree.Script

/-- Why a source has no tree, in the words of its reader. -/
structure Complaint where
  diagnostic : String
  span : Span
deriving Repr, DecidableEq

/-- Gives the tree of a source, or the first complaint about it, also where it could have
gone on reading. -/
abbrev Reader := Dialect → String → Except Complaint Program

/-- A byte order mark at the very front is no part of the text that is read, and
offsets count from behind it. -/
def withoutMark : List Char → List Char
  | c :: rest => if c.toNat = 0xfeff then rest else c :: rest
  | [] => []

/-- A reader that knows the tree of one source in one dialect and refuses everything else. -/
def Reader.knowing (dialect : Dialect) (source : String) (script : Program) : Reader := fun spoken text =>
  if spoken = dialect ∧ text = source then .ok script else .error ⟨"Unexpected source", {}⟩

theorem Reader.knowing_eq_ok_iff {dialect spoken : Dialect} {source text : String} {script program : Program} :
    Reader.knowing dialect source script spoken text = .ok program ↔
      (spoken = dialect ∧ text = source) ∧ script = program := by
  rw [knowing]
  split <;> simp_all

/-- A constant that is defined in a script has its value, and only the typed dialect can
describe what is defined elsewhere. -/
structure Reader.RequiresValues (reader : Reader) : Prop where
  defined {dialect : Dialect} {source : String} {script : Program} (read : reader dialect source = .ok script) :
    ∀ declarators span, .declaration false .constant declarators span ∈ script.body →
      ∀ declarator ∈ declarators, declarator.init.isSome
  untyped {source : String} {script : Program} (read : reader .jsx source = .ok script) :
    ∀ kind declarators span, .declaration true kind declarators span ∉ script.body

end LogicFree.Script
