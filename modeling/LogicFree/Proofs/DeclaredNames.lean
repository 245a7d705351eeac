import Mathlib.Data.List.Basic
import LogicFree.Proofs.ErrorModes
import LogicFree.Proofs.PrintedProgram

/-! The names that a compiled file binds. They are those of the template's own
declarations, also where they are told from the printed text, and the name under which the
constructor is found is not kept apart from them. -/

namespace LogicFree

namespace Output

def Statement.binds : Statement → List String
  | .expression _ => []
  | .declaration _ declarators => declarators.map Prod.fst

def Program.binds (program : Program) : List String := program.body.flatMap Statement.binds

private theorem Statement.binds_essence (statement : Statement) : statement.essence.binds = statement.binds := by
  cases statement with
  | expression argument => rfl
  | declaration kind declarators =>
    rw [Statement.essence, Statement.binds, Statement.binds, List.map_map]
    rfl

/-- The text of well-formed code tells which names it binds. -/
theorem Program.binds_of_print {program other : Program} (wellFormed : program.wellFormed = true)
    (otherWellFormed : other.wellFormed = true) (same : program.print = other.print) :
    program.binds = other.binds := by
  have essences := printStatements_cancel program.body other.body wellFormed otherWellFormed
    (congrArg String.toList same)
  have names (code : Program) : code.binds = (code.body.map Statement.essence).flatMap Statement.binds := by
    simp only [Program.binds, List.flatMap_map, Statement.binds_essence]
  rw [names, names, essences]

end Output

namespace Template
open Output (constructorRoot)

/-- The name that a declarator binds. The names inside a pattern are not kept. -/
def Binding.name? : Binding → Option String
  | .identifier name _ => some name
  | .pattern _ => none

def Statement.binds : Statement → List String
  | .declaration decl => decl.declarators.filterMap (·.binding.name?)
  | .moduleItem .. | .expression .. | .empty _ | .unsupported .. => []

def Program.binds (program : Program) : List String := program.body.flatMap Statement.binds

private theorem Declarator.name_of_image (declarator : Declarator) :
    declarator.image.map Prod.fst = declarator.binding.name? := by
  obtain ⟨binding, init, span⟩ := declarator
  cases binding <;> rfl

private theorem Statement.binds_image (statement : Statement) :
    statement.image.toList.flatMap Output.Statement.binds = statement.binds := by
  cases statement with
  | declaration decl =>
    simp only [Statement.image, Option.toList_some, List.flatMap_singleton,
      Output.Statement.binds, Statement.binds, List.map_filterMap, Declarator.name_of_image]
  | expression expr span => cases image : expr.image <;> simp [Statement.image, image,
      Output.Statement.binds, Statement.binds]
  | _ => rfl

private theorem Program.binds_image (program : Program) : program.image.binds = program.binds := by
  rw [Output.Program.binds, Program.image, Program.binds, List.filterMap_eq_flatMap_toList,
    List.flatMap_assoc]
  simp only [Statement.binds_image]

/-- A compiled file binds the names that the template's declarations bind, in order, and
no other. So the constructor's name is bound where a declaration of the template binds it
and nowhere else. Of well-formed code this can be told from the text: whatever else is
printed like it binds the same names. -/
theorem Program.constructor_bound_iff (program : Program) (mode : Mode)
    (output : Output.Program) (compiled : (program.compile mode).1 = .ok output) :
    output.binds = program.binds ∧
    (constructorRoot ∈ output.binds ↔
      ∃ statement ∈ program.body, constructorRoot ∈ statement.binds) ∧
    (output.wellFormed = true → ∀ other : Output.Program, other.wellFormed = true →
      other.print = output.print → other.binds = program.binds) := by
  obtain ⟨-, rfl⟩ := (program.compile_eq_ok_iff mode output).mp compiled
  refine ⟨program.binds_image, ?_, ?_⟩
  · rw [program.binds_image, Program.binds, List.mem_flatMap]
  · intro wellFormed other otherWellFormed same
    exact (Output.Program.binds_of_print otherWellFormed wellFormed same).trans program.binds_image

theorem Program.constructor_bound_iff_declared :
    let program : Program := ⟨[.declaration ⟨.constant, [⟨.identifier "data" ⟨6, 10⟩,
      some (.element ⟨"b", [], [], true, ⟨13, 17⟩⟩), ⟨6, 17⟩⟩], ⟨0, 18⟩⟩], ⟨0, 18⟩⟩
    ∃ output, (program.compile .first).1 = .ok output ∧ output.binds = ["data"] ∧
      constructorRoot ∉ output.binds ∧
      ∀ other : Output.Program, other.wellFormed = true → other.print = output.print →
        constructorRoot ∉ other.binds := by
  intro program
  refine ⟨_, rfl, ?_⟩
  obtain ⟨same, -, told⟩ := Program.constructor_bound_iff program .first _ rfl
  have free : constructorRoot ∉ program.binds := by decide
  refine ⟨same, by rwa [same], ?_⟩
  intro other wellFormed printed
  rwa [told (by decide) other wellFormed printed]

/-- A template may bind the constructor's name, and the calls after that are calls of what
it was bound to. -/
theorem Program.constructor_rebound :
    ∃ (program : Program) (output : Output.Program),
      (program.compile .first).1 = .ok output ∧ constructorRoot ∈ output.binds ∧
      output.print = "const Easley = data;\nEasley.Jet.create(\"b\", null);\n" := by
  refine ⟨⟨[.declaration ⟨.constant, [⟨.identifier "Easley" ⟨6, 12⟩,
    some (.identifier "data" ⟨15, 19⟩), ⟨6, 19⟩⟩], ⟨0, 20⟩⟩,
    .expression (.element ⟨"b", [], [], true, ⟨21, 25⟩⟩) ⟨21, 25⟩], ⟨0, 25⟩⟩, _, rfl, ?_, ?_⟩
  · decide
  · decide

end Template

end LogicFree
