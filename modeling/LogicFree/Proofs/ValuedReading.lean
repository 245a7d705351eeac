import LogicFree.Proofs.StatementForms

/-! Constants and their values in what is read from a source. A constant is read only together
with its value, unless it describes something that is defined elsewhere, which the untyped
dialect cannot do. -/

namespace LogicFree.Script

/-- A declaration as its surroundings allow it. A constant that is defined here has its
value, and without types a declaration describes no more than all around it does. -/
def Statement.Settled (context : Context) : Statement → Prop
  | .declaration ambient kind declarators _ =>
    (ambient = false → kind = .constant → ∀ declarator ∈ declarators, declarator.init.isSome) ∧
      (context.typed = false → ambient = context.ambient)
  | .moduleItem .. | .expression .. | .empty _ | .other .. => True

private theorem Statement.settled_startingAt (context : Context) (statement : Statement) (start : Nat) :
    (statement.startingAt start).Settled context ↔ statement.Settled context := by
  cases statement <;> rfl

theorem Statement.Settled.of_ambient {context : Context} {statement : Statement} (typed : context.typed = true)
    (settled : statement.Settled { context with ambient := true }) : statement.Settled context := by
  cases statement with
  | declaration ambient kind declarators span =>
    refine ⟨settled.1, ?_⟩
    intro untyped
    rw [typed] at untyped
    cases untyped
  | _ => trivial

namespace Grammar

open Parse

variable {source : List Char} {g : Grammar source} (context : Context) (cursor : Cursor source)

theorem requireInit_ensures (defined : context.ambient = false) (declarators : List Declarator) :
    Ensures cursor (requireInit context .constant declarators) fun _ _ =>
      ∀ declarator ∈ declarators, declarator.init.isSome := by
  induction declarators generalizing cursor with
  | nil => simp [requireInit]
  | cons declarator rest ih =>
    rw [requireInit]
    cases init : declarator.init with
    | none => simp [defined]
    | some expr => simpa [init] using ih cursor

private theorem variableStatement_settled (kind : Template.VariableKind) :
    Ensures cursor (g.variableStatement context kind) fun statement _ => statement.Settled context := by
  simp only [variableStatement, ensures_bind, ensures_start, ensures_advance]
  refine .of_forall fun declarators next => ?_
  by_cases strict : context.ambient = false ∧ kind = .constant
  · obtain ⟨defined, rfl⟩ := strict
    refine (requireInit_ensures context next defined declarators).mono fun _ reached valued => ?_
    refine .of_forall fun _ last => ?_
    simp only [ensures_spanFrom, ensures_pure]
    exact ⟨fun _ _ => valued, fun _ => rfl⟩
  · refine .of_forall fun _ reached => .of_forall fun _ last => ?_
    simp only [ensures_spanFrom, ensures_pure]
    exact ⟨fun defined constant => absurd ⟨defined, constant⟩ strict, fun _ => rfl⟩

private theorem expressionStatement_settled :
    Ensures cursor (g.expressionStatement context) fun statement _ => statement.Settled context := by
  simp [expressionStatement, Statement.Settled]

section

variable (settles : ∀ context cursor,
  Ensures cursor (g.statement context) fun statement _ => statement.Settled context)

include settles

private theorem ambientStatement_settled (typed : context.typed = true) :
    Ensures cursor (g.ambientStatement context) fun statement _ => statement.Settled context := by
  have described (cursor : Cursor source) :
      Ensures cursor (g.statement { context with ambient := true }) fun statement _ =>
        statement.Settled context :=
    (settles _ cursor).mono fun _ _ settled => settled.of_ambient typed
  have elsewhere (cursor : Cursor source) :
      Ensures cursor (g.namespaceStatement { context with ambient := true }) fun statement _ =>
        statement.Settled context := by
    simp [namespaceStatement, Statement.Settled]
  simp [ambientStatement, Statement.settled_startingAt, described, elsewhere]

private theorem statementRule_settled :
    Ensures cursor (g.statementRule context) fun statement _ => statement.Settled context := by
  refine (statementRule_formed context cursor).mono fun statement _ formed => ?_
  cases formed with
  | other form span => trivial
  | empty span => trivial
  | expression read => exact expressionStatement_settled context _ _ _ read
  | declared kind read => exact variableStatement_settled context _ kind _ _ read
  | ambient typed read => exact ambientStatement_settled context _ settles typed _ _ read

private theorem moduleItemRule_settled :
    Ensures cursor (g.moduleItemRule context) fun statement _ => statement.Settled context := by
  refine (moduleItemRule_formed context cursor).mono fun statement _ formed => ?_
  cases formed with
  | moduleItem form span => trivial
  | statement read => exact settles context _ _ _ read

end

/-- By induction on the nesting, every statement is as its surroundings allow it. -/
theorem ofDepth_settles (depth : Nat) :
    Ensures cursor ((ofDepth depth : Grammar source).statement context) fun statement _ =>
      statement.Settled context := by
  induction depth generalizing context cursor with
  | zero => exact ensures_unexpected _
  | succ depth ih => exact statementRule_settled context cursor ih

private theorem ofDepth_settles_item (depth : Nat) :
    Ensures cursor ((ofDepth depth : Grammar source).moduleItem context) fun statement _ =>
      statement.Settled context := by
  cases depth with
  | zero => exact ensures_unexpected _
  | succ depth => exact moduleItemRule_settled context cursor fun inner place => ofDepth_settles inner place depth

end Grammar

/-- The reader of this library reads no constant without its value, unless it is described. -/
theorem Program.parse_requiresValues : Reader.RequiresValues Program.parse := by
  have settled {dialect : Dialect} {source : String} {script : Program}
      (parsed : Program.parse dialect source = .ok script) :
      ∀ statement ∈ script.body, statement.Settled { typed := dialect = .tsx } :=
    Program.parse_ensures (fun depth cursor => Grammar.ofDepth_settles_item _ cursor depth) parsed
  constructor
  · intro dialect source script parsed declarators span member
    exact (settled parsed _ member).1 rfl rfl
  · intro source script parsed kind declarators span member
    cases (settled parsed _ member).2 rfl

end LogicFree.Script
