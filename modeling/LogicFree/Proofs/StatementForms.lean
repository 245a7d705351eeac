import LogicFree.Proofs.ParseSteps
import LogicFree.Script.Program

/-! What the rules for statements can yield, said once for all that is to be shown of the
statements of a script. Apart from the kinds of which only the place is kept, a statement
comes from one of three rules: an expression, a variable declaration, or the description of
something that is defined elsewhere. What holds of every item then holds of a whole script. -/

namespace LogicFree.Script

namespace Grammar

open Parse

variable {source : List Char}

/-- How a statement comes about in the given surroundings. -/
inductive Formed (g : Grammar source) (context : Context) : Statement → Prop
  | other (form : StatementForm) (span : Span) : Formed g context (.other form span)
  | empty (span : Span) : Formed g context (.empty span)
  | expression {statement : Statement} {opening next : Cursor source}
      (read : g.expressionStatement context opening = .ok (statement, next)) : Formed g context statement
  | declared {statement : Statement} {opening next : Cursor source} (kind : Template.VariableKind)
      (read : g.variableStatement context kind opening = .ok (statement, next)) : Formed g context statement
  | ambient {statement : Statement} {opening next : Cursor source} (typed : context.typed = true)
      (read : g.ambientStatement context opening = .ok (statement, next)) : Formed g context statement

variable {g : Grammar source} (context : Context) (cursor : Cursor source)

@[simp] theorem formed_other (form : StatementForm) (span : Span) :
    g.Formed context (.other form span) := .other form span

@[simp] theorem ensures_otherStatement (form : StatementForm) (start : Nat)
    (post : Statement → Cursor source → Prop) :
    Ensures cursor (otherStatement form start) post ↔
      post (.other form ⟨start, cursor.last⟩) cursor := by
  simp [otherStatement]

@[simp] theorem ensures_moduleStatement (form : ModuleForm) (start : Nat)
    (post : Statement → Cursor source → Prop) :
    Ensures cursor (moduleStatement form start) post ↔
      post (.moduleItem form ⟨start, cursor.last⟩) cursor := by
  simp [moduleStatement]

@[simp] theorem expressionStatement_formed :
    Ensures cursor (g.expressionStatement context) fun statement _ => g.Formed context statement :=
  fun _ _ read => .expression read

private theorem typedStatement?_formed (typed : context.typed = true) (text : String) :
    Ensures cursor (g.typedStatement? context text) fun found _ =>
      ∀ statement ∈ found, g.Formed context statement := by
  have ambient (cursor : Cursor source) :
      Ensures cursor (g.ambientStatement context) fun statement _ => g.Formed context statement :=
    fun _ _ read => .ambient typed read
  simp only [typedStatement?, ensures_bind]
  refine .of_forall fun following next => ?_
  split
  case h_10 =>
    -- After `await using` one more token decides.
    simp only [ensures_ite]
    split
    · simp only [ensures_bind, ensures_get]
      split <;> simp [usingStatement]
    · simp
  all_goals simp [interfaceStatement, typeStatement, enumStatement, namespaceStatement,
    classStatement, usingStatement, ambient]

private theorem keywordStatement_formed (text : String) :
    Ensures cursor (g.keywordStatement context text) fun statement _ => g.Formed context statement := by
  unfold keywordStatement
  split
  all_goals simp [ifStatement, whileStatement, doStatement, forStatement, breakStatement,
    continueStatement, returnStatement, throwStatement, switchStatement, tryStatement,
    functionStatement, classStatement, labeledStatement]

private theorem commonStatement_formed (text : String) :
    Ensures cursor (g.commonStatement context text) fun statement _ => g.Formed context statement := by
  simp only [commonStatement, ensures_bind]
  refine .of_forall fun kind next => ?_
  cases kind with
  | none => exact keywordStatement_formed context next text
  | some kind =>
    have formed (cursor : Cursor source) :
        Ensures cursor (g.variableStatement context kind) fun statement _ => g.Formed context statement :=
      fun _ _ read => .declared kind read
    simp [formed]

private theorem wordStatement_formed (text : String) :
    Ensures cursor (g.wordStatement context text) fun statement _ => g.Formed context statement := by
  simp only [wordStatement, ensures_bind, ensures_ite]
  split
  next typed =>
    refine (typedStatement?_formed context cursor typed text).mono fun found next formed => ?_
    cases found with
    | none => exact commonStatement_formed context next text
    | some statement => simp [formed statement rfl]
  next => exact commonStatement_formed context cursor text

/-- Everything that the rule for statements can yield. -/
theorem statementRule_formed :
    Ensures cursor (g.statementRule context) fun statement _ => g.Formed context statement := by
  simp only [statementRule, ensures_bind, ensures_start, ensures_token]
  split
  · simp [Formed.empty]
  · simp
  · exact wordStatement_formed context cursor _
  · exact expressionStatement_formed context cursor

/-- What an item of a module comes from: a module-level declaration or a statement. -/
inductive FormedItem (g : Grammar source) (context : Context) : Statement → Prop
  | moduleItem (form : ModuleForm) (span : Span) : FormedItem g context (.moduleItem form span)
  | statement {statement : Statement} {opening next : Cursor source}
      (read : g.statement context opening = .ok (statement, next)) : FormedItem g context statement

@[simp] theorem formedItem_moduleItem (form : ModuleForm) (span : Span) :
    g.FormedItem context (.moduleItem form span) := .moduleItem form span

@[simp] theorem statement_formedItem :
    Ensures cursor (g.statement context) fun statement _ => g.FormedItem context statement :=
  fun _ _ read => .statement read

private theorem typedExport?_formed (start : Nat) :
    Ensures cursor (g.typedExport? context start) fun found _ =>
      ∀ statement ∈ found, g.FormedItem context statement := by
  simp only [typedExport?, ensures_bind, ensures_ite, ensures_get, ensures_token]
  split
  · simp
  split
  · simp
  · simp
  · simp [importAlias]
  · split <;> simp [exportNames, exportAll]
  · simp

private theorem exportDeclaration_formed :
    Ensures cursor (g.exportDeclaration context) fun statement _ => g.FormedItem context statement := by
  simp only [exportDeclaration, ensures_bind, ensures_start]
  refine .of_forall fun _ next => ?_
  refine (typedExport?_formed context next _).mono fun found last formed => ?_
  cases found with
  | some statement => simp [formed statement rfl]
  | none =>
    rw [ensures_bind, ensures_token]
    split <;> simp [exportAll, exportNames, exportDefault, exportStatement]

/-- Everything that the rule for the items of a module can yield. -/
theorem moduleItemRule_formed :
    Ensures cursor (g.moduleItemRule context) fun statement _ => g.FormedItem context statement := by
  simp only [moduleItemRule, ensures_bind, ensures_token]
  split
  · exact exportDeclaration_formed context cursor
  · simp [importDeclaration, importAlias]
  · exact statement_formedItem context cursor

private theorem program_ensures {holds : Statement → Prop}
    (each : ∀ cursor, Ensures cursor (g.moduleItem context) fun statement _ => holds statement) :
    Ensures cursor (g.program context) fun body _ => ∀ statement ∈ body, holds statement := by
  simp only [program, ensures_bind, ensures_pure, List.mem_reverse]
  refine .repeated_keeps (fun (body : List Statement) => ∀ statement ∈ body, holds statement)
    (by simp) ?_
  intro body current holding
  have kept := iff_true_intro holding
  simp [kept, each]

end Grammar

/-- What the grammar of any depth ensures of every item at the outside of a file holds of
every statement that is read from a source. -/
theorem Program.parse_ensures {dialect : Dialect} {source : String} {program : Program}
    {holds : Statement → Prop}
    (each : ∀ depth cursor, Parse.Ensures cursor
      ((Grammar.ofDepth depth : Grammar (withoutMark source.toList)).moduleItem { typed := dialect = .tsx })
      fun statement _ => holds statement)
    (parsed : Program.parse dialect source = .ok program) : ∀ statement ∈ program.body, holds statement := by
  unfold Program.parse at parsed
  dsimp only at parsed
  split at parsed
  · cases parsed
  next body cursor success =>
    cases parsed
    exact Grammar.program_ensures _ _ (each _) body cursor success

end LogicFree.Script
