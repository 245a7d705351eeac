import LogicFree.Proofs.PlacedMarkup
import LogicFree.Script.Expression

/-! Expressions that are read from a source are placed in it. A number comes from one token
only, and every other rule hands on what it was given or keeps no more than a kind and a
place. -/

namespace LogicFree.Script.Grammar

open Parse

variable {source : List Char} {g : Grammar source} (places : g.Places) (context : Context)
  (cursor : Cursor source)

@[simp] theorem operand_expr (expr : Expr) : expr.operand.expr = expr := rfl

@[simp] theorem place_expr (expr : Expr) : expr.place.expr = expr := rfl

@[simp] theorem nameOperand_expr (name : String) (span : Span) :
    (nameOperand name span).expr = .identifier name span := rfl

@[simp] theorem ensures_other (form : ExprForm) (start : Nat) (post : Operand → Cursor source → Prop) :
    Ensures cursor (other form start) post ↔
      post (Expr.other form ⟨start, cursor.last⟩).operand cursor := by
  simp [other]

private theorem arrowBody_placed (async : Bool) (start : Nat) :
    Ensures cursor (g.arrowBody context async start) fun operand _ => operand.expr.Placed source := by
  simp [arrowBody, Expr.Placed]

private theorem arrowHead_placed (async : Bool) (start : Nat) :
    Ensures cursor (g.arrowHead context async start) fun operand _ => operand.expr.Placed source := by
  simp [arrowHead, arrowBody_placed]

private theorem superExpression_placed :
    Ensures cursor (g.superExpression context) fun operand _ => operand.expr.Placed source := by
  simp only [superExpression, ensures_bind, ensures_start]
  refine .of_forall fun _ _ => .of_forall fun _ current => ?_
  rw [ensures_token]
  split <;> simp [Expr.Placed]

private theorem nameExpression_placed :
    Ensures cursor (g.nameExpression context) fun operand _ => operand.expr.Placed source := by
  simp [nameExpression, arrowBody_placed, Expr.Placed]

private theorem asyncExpression_placed :
    Ensures cursor (g.asyncExpression context) fun operand _ => operand.expr.Placed source := by
  simp only [asyncExpression, ensures_bind, ensures_start, ensures_get, ensures_ite]
  split
  · simp [Expr.Placed]
  split
  · have arrow : Ensures cursor (do
        advance
        if ← atName then
          let _ ← bindingName
          g.arrowBody context true cursor.here.pos
        else g.arrowHead context true cursor.here.pos) fun operand _ =>
          operand.expr.Placed source := by
      simp [arrowBody_placed, arrowHead_placed]
    refine arrow.attempt.mono fun found next placed => ?_
    cases found with
    | none => exact nameExpression_placed context next
    | some operand => simp [placed operand rfl]
  · exact nameExpression_placed context cursor

include places

private theorem parenItem_placed {state : ParenList}
    (placed : ∀ item ∈ state.items, item.expr.Placed source) :
    Ensures cursor (g.parenItem context state) fun found _ =>
      ∀ further ∈ found, ∀ item ∈ further.items, item.expr.Placed source := by
  have kept : (∀ item ∈ state.items, item.expr.Placed source) ↔ True := iff_true_intro placed
  simp only [parenItem, ensures_bind, ensures_ite]
  split
  · simp
  refine .of_forall fun closing next => ?_
  split
  · simp [kept]
  refine .of_forall fun rest next => ?_
  split
  · simp [kept]
  refine .of_forall fun this next => .of_forall fun typed next => ?_
  split
  · simp [kept]
  refine (places.assignment _ next).mono fun item next first => ?_
  simp [kept, first]

omit places in
private theorem parenOperand_placed {items : List Operand}
    (placed : ∀ item ∈ items, item.expr.Placed source) (start : Nat) :
    Ensures cursor (parenOperand items start) fun operand _ => operand.expr.Placed source := by
  simp only [parenOperand, ensures_bind, ensures_spanFrom]
  refine .of_forall fun _ next => ?_
  split
  · simp
  next item => simp [Expr.Placed, placed]
  · simp [Expr.Placed]

private theorem paren_placed :
    Ensures cursor (g.paren context) fun operand _ => operand.expr.Placed source := by
  simp only [paren, ensures_bind, ensures_start, ensures_ite]
  refine .of_forall fun _ opened => ?_
  refine (Ensures.repeated_keeps
    (fun (state : ParenList) => ∀ item ∈ state.items, item.expr.Placed source) (by simp) ?_).mono ?_
  · intro state current placed
    exact parenItem_placed places context current placed
  intro state next placed
  have operand (current : Cursor source) :
      Ensures current (parenOperand state.items.reverse cursor.here.pos) fun operand _ =>
        operand.expr.Placed source :=
    parenOperand_placed current (fun item member => placed item (List.mem_reverse.mp member)) _
  have arrow : Ensures next (do
      expectMark ":"
      g.resultType context
      g.arrowBody context false cursor.here.pos) fun operand _ => operand.expr.Placed source := by
    simp [arrowBody_placed]
  split
  · rw [ensures_isMark]
    split
    · refine arrow.attempt.mono fun found last typed => ?_
      cases found with
      | none => simp [arrowBody_placed, operand]
      | some result => simp [typed result rfl]
    · simp [arrowBody_placed, operand]
  · simp [operand]

private theorem markupOperand_placed :
    Ensures cursor (g.markupOperand context) fun operand _ => operand.expr.Placed source := by
  simp only [markupOperand, ensures_bind, ensures_start]
  refine (openAngle_ensures cursor).mono fun _ middle opened => ?_
  refine (places.markup _ middle cursor.here opened.1 opened.2).mono ?_
  rintro ⟨found, after⟩ next placed
  cases found with
  | element inner =>
    rw [Markup.Placed] at placed
    simp [Expr.Placed, placed]
  | fragment span => simp [Expr.Placed]

omit places in
private theorem wordExpression_placed (text : String) :
    Ensures cursor (g.wordExpression context text) fun operand _ => operand.expr.Placed source := by
  simp only [wordExpression, ensures_bind, ensures_start]
  split <;> simp [newExpression, superExpression_placed, importExpression,
    asyncExpression_placed, nameExpression_placed, Expr.Placed]

omit places in
private theorem regexLiteral_placed :
    Ensures cursor regexLiteral fun operand _ => operand.expr.Placed source := by
  simp only [regexLiteral, ensures_bind, ensures_get]
  split <;> simp [Expr.Placed]

private theorem markExpression_placed (text : String) :
    Ensures cursor (g.markExpression context text) fun operand _ => operand.expr.Placed source := by
  unfold markExpression
  split
  · exact paren_placed places context cursor
  · simp [arrayLiteral, Readings.operand, Expr.Placed]
  · simp [objectLiteral, Readings.operand, Expr.Placed]
  · exact regexLiteral_placed cursor
  · exact regexLiteral_placed cursor
  · simp

/-- A number is one token, and stands where the token does. -/
theorem primary_placed :
    Ensures cursor (g.primary context) fun operand _ => operand.expr.Placed source := by
  simp only [primary, ensures_bind, ensures_get]
  split
  next text _ => exact wordExpression_placed context cursor text
  next => exact nameExpression_placed context cursor
  next text _ => exact markExpression_placed places context cursor text
  next => simp [Expr.Placed]
  next bits number => simpa [Expr.Placed] using cursor.number_placed number
  all_goals simp [Expr.Placed]

omit places in
private theorem propertyName_placed :
    Ensures cursor nextAccess.propertyName fun property _ => property.Placed source := by
  simp only [nextAccess.propertyName, ensures_bind, ensures_get]
  split <;> simp [Property.Placed]

omit places in
private theorem step_placed (start : Nat) (chain : Chain) {make : Span → Expr}
    (placed : ∀ span, (make span).Placed source) :
    Ensures cursor (nextAccess.step start chain make) fun found _ =>
      ∀ further ∈ found, further.operand.expr.Placed source := by
  simp [nextAccess.step, Expr.Placed, placed]

private theorem nextAccess_placed (calls : Bool) (start : Nat) {chain : Chain}
    (placed : chain.operand.expr.Placed source) :
    Ensures cursor (g.nextAccess context calls start chain) fun found _ =>
      ∀ further ∈ found, further.operand.expr.Placed source := by
  simp only [nextAccess, ensures_bind, ensures_ite, ensures_token]
  split
  · simp
  split
  · -- A property by its name.
    simp only [ensures_bind, ensures_advance]
    refine (propertyName_placed _).mono fun property next named => ?_
    refine (plain_placed next placed).mono fun object last rooted => ?_
    exact step_placed last start chain fun span => by simp [Expr.Placed, named, rooted]
  · -- A property by its index, which may hold numbers of its own.
    simp only [ensures_bind, ensures_advance]
    refine (expression_placed places _ _).mono fun index next inside => ?_
    refine .of_forall fun _ next => ?_
    refine (plain_placed next placed).mono fun object last rooted => ?_
    exact step_placed last start chain fun span => by
      simp [Expr.Placed, Property.Placed, inside, rooted]
  · -- Of an optional access, and of all the others, nothing is kept.
    simp only [ensures_bind]
    refine .of_forall fun _ next => ?_
    rw [ensures_advance, ensures_token]
    split <;> simp [Expr.Placed]
  · simp [nextAccess.call, Expr.Placed]
  · simp [Expr.Placed]
  · simp [Expr.Placed]
  · split
    · simp
    · exact Ensures.attempt (by simp [Expr.Placed])
  · split
    · simp
    · exact Ensures.attempt (by simp [Expr.Placed])
  · simp

private theorem accessRule_placed (calls : Bool) :
    Ensures cursor (g.accessRule context calls) fun operand _ => operand.expr.Placed source := by
  simp only [accessRule, ensures_bind, ensures_start, ensures_pure]
  refine (primary_placed places context cursor).mono fun first next placed => ?_
  refine .repeated_keeps (fun (chain : Chain) => chain.operand.expr.Placed source) placed ?_
  intro chain current placed
  exact nextAccess_placed places context current calls _ placed

private theorem unaryRule_placed :
    Ensures cursor (g.unaryRule context) fun operand _ => operand.expr.Placed source := by
  simp only [unaryRule, ensures_bind, ensures_start, ensures_token]
  split
  · simp [operated, Expr.Placed]
  simp only [ensures_ite, ensures_bind]
  split
  · simp [Expr.Placed]
  split
  · exact markupOperand_placed places context cursor
  refine (accessRule_placed places context cursor true).mono fun operand next placed => ?_
  simp [Expr.Placed, placed]

omit places in
private theorem nextOperator_placed (precedence : Nat) (left : Operand) :
    Ensures cursor (g.nextOperator context precedence left) fun found _ =>
      ∀ further ∈ found, further.expr.Placed source := by
  simp only [nextOperator, ensures_bind, ensures_ite, ensures_token]
  split
  · simp
  refine .of_forall fun newline next => ?_
  split
  · simp [Expr.Placed]
  split <;> simp [Expr.Placed]

private theorem binaryRule_placed (precedence : Nat) :
    Ensures cursor (g.binaryRule context precedence) fun operand _ => operand.expr.Placed source := by
  simp only [binaryRule, ensures_bind]
  refine (unaryRule_placed places context cursor).mono fun first next placed => ?_
  refine .repeated_keeps (fun (left : Operand) => left.expr.Placed source) placed ?_
  intro left current _
  exact nextOperator_placed context current precedence left

omit places in
private theorem assignmentTail_placed {left : Operand} (placed : left.expr.Placed source) :
    Ensures cursor (g.assignmentTail context left) fun operand _ => operand.expr.Placed source := by
  simp only [assignmentTail, ensures_bind, ensures_ite, ensures_token]
  split
  · simp [placed]
  refine .of_forall fun conditional next => ?_
  split
  · simp [Expr.Placed]
  split <;> simp [Expr.Placed, placed]

theorem assignmentRule_placed :
    Ensures cursor (g.assignmentRule context) fun operand _ => operand.expr.Placed source := by
  have ordinary (current : Cursor source) (inner : Context) : Ensures current (do
      g.assignmentTail context (← g.binaryRule inner 0)) fun operand _ =>
        operand.expr.Placed source := by
    rw [ensures_bind]
    exact (binaryRule_placed places inner current 0).mono
      fun left next placed => assignmentTail_placed context next placed
  simp only [assignmentRule, ensures_bind, ensures_start]
  refine .of_forall fun yielding next => ?_
  simp only [ensures_ite, ensures_bind, ensures_isMark]
  split
  · simp [yieldExpression, Expr.Placed]
  split
  · exact .orElse (ordinary _ _) (arrowHead_placed _ _ _ _)
  · exact (ensures_bind ..).mp (ordinary _ _)

end LogicFree.Script.Grammar
