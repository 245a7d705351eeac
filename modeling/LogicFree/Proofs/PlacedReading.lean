import LogicFree.Proofs.PlacedExpressions
import LogicFree.Proofs.StatementForms

/-! Whatever is read from a source is placed in it. Every rule of the grammar keeps this
if the rules one level further in do, so it holds of the grammar of any depth. -/

namespace LogicFree.Script

namespace Grammar

open Parse

variable {source : List Char} {g : Grammar source} (places : g.Places) (context : Context)
  (cursor : Cursor source)

include places

private theorem declarator_placed :
    Ensures cursor (g.declarator context) fun declarator _ => declarator.Placed source := by
  simp [declarator, Declarator.Placed, single_placed places]

private theorem declarators_placed :
    Ensures cursor (g.declarators context) fun declarators _ =>
      ∀ declarator ∈ declarators, declarator.Placed source := by
  simp only [declarators, ensures_bind, ensures_pure]
  refine (declarator_placed places context cursor).mono fun first next placed => ?_
  refine (Ensures.repeated_keeps
    (fun (rest : List Declarator) => ∀ declarator ∈ rest, declarator.Placed source)
    (by simp) ?_).mono ?_
  · intro rest current others
    have kept := iff_true_intro others
    simp [kept, declarator_placed places]
  · intro rest last others
    simp only [List.forall_mem_cons, List.mem_reverse]
    exact ⟨placed, others⟩

private theorem variableStatement_placed (kind : Template.VariableKind) :
    Ensures cursor (g.variableStatement context kind) fun statement _ =>
      statement.Placed source := by
  simp only [variableStatement, ensures_bind, ensures_start, ensures_advance]
  refine (declarators_placed places _ _).mono fun declarators next placed => ?_
  have kept := iff_true_intro placed
  simp [Statement.Placed, kept]

private theorem expressionStatement_placed :
    Ensures cursor (g.expressionStatement context) fun statement _ => statement.Placed source := by
  simp only [expressionStatement, ensures_bind, ensures_start]
  refine (expression_placed places _ _).mono fun expr next placed => ?_
  simp [Statement.Placed, placed]

omit places

@[simp] theorem startingAt_placed (statement : Statement) (start : Nat) :
    (statement.startingAt start).Placed source ↔ statement.Placed source := by
  cases statement <;> rfl

include places

private theorem ambientStatement_placed :
    Ensures cursor (g.ambientStatement context) fun statement _ => statement.Placed source := by
  simp [ambientStatement, namespaceStatement, places.statement]

private theorem statementRule_placed :
    Ensures cursor (g.statementRule context) fun statement _ => statement.Placed source := by
  refine (statementRule_formed context cursor).mono fun statement _ formed => ?_
  cases formed with
  | other form span => exact Statement.placed_other source form span
  | empty span => exact Statement.placed_empty source span
  | expression read => exact expressionStatement_placed places context _ _ _ read
  | declared kind read => exact variableStatement_placed places context _ kind _ _ read
  | ambient typed read => exact ambientStatement_placed places context _ _ _ read

private theorem moduleItemRule_placed :
    Ensures cursor (g.moduleItemRule context) fun statement _ => statement.Placed source := by
  refine (moduleItemRule_formed context cursor).mono fun statement _ formed => ?_
  cases formed with
  | moduleItem form span => exact Statement.placed_moduleItem source form span
  | statement read => exact places.statement context _ _ _ read

omit places

/-- By induction on the nesting, whatever any rule yields is placed in the source. -/
theorem ofDepth_places (depth : Nat) : (ofDepth depth : Grammar source).Places := by
  induction depth with
  | zero =>
    exact ⟨fun _ _ => ensures_unexpected _, fun _ _ => ensures_unexpected _,
      fun _ _ => ensures_unexpected _, fun _ _ _ _ _ => ensures_unexpected _⟩
  | succ depth ih =>
    exact ⟨assignmentRule_placed ih, statementRule_placed ih, moduleItemRule_placed ih,
      fun context cursor => markupRule_placed context cursor ih⟩

end Grammar

/-- The reader of this library keeps the places of numbers and tags. -/
theorem Program.parse_keepsPlaces : Reader.KeepsPlaces Program.parse := by
  intro dialect source script parsed
  exact Program.parse_ensures (fun depth cursor => (Grammar.ofDepth_places depth).moduleItem _ cursor) parsed

end LogicFree.Script
