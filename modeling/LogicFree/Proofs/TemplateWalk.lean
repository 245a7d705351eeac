import LogicFree.Proofs.PassReplay
import LogicFree.Template.Compile

/-! The walk over a template, apart from the pass that carries it out. It goes
through the tree from left to right and depth first: the attributes of an element
before its children, the binding of a declarator before its initializer. Beside it
stands the image, the code that is left when refused nodes are passed over. -/

namespace LogicFree.Template
open Output (Argument CreateCall Key)

mutual

def Element.visits : Element → List Visit
  | ⟨name, attributes, children, selfClosing, _⟩ =>
    .entered name attributes.length children.length selfClosing ::
      (visitsOfAttributes attributes ++ visitsOfChildren children)

def Expr.visits : Expr → List Visit
  | .element inner => inner.visits
  | expr => Pass.checkVisits expr.check

def AttributeValue.visits : AttributeValue → List Visit
  | .absent | .text .. => []
  | .expression expr => expr.visits
  | .empty span => [.refused ⟨.unsupported "empty attribute expression", span⟩]

def Attribute.visits : Attribute → List Visit
  | .named _ value _ => value.visits
  | .spread span => [.refused ⟨.spreadAttribute, span⟩]

def visitsOfAttributes : List Attribute → List Visit
  | [] => []
  | item :: rest => item.visits ++ visitsOfAttributes rest

def Child.visits : Child → List Visit
  | .text .. | .empty _ => []
  | .element inner => inner.visits
  | .expression expr => expr.visits
  | .unsupported kind span => [.refused ⟨.unsupported kind, span⟩]

def visitsOfChildren : List Child → List Visit
  | [] => []
  | child :: rest => child.visits ++ visitsOfChildren rest

end

def Declarator.visits (declarator : Declarator) : List Visit :=
  Pass.checkVisits declarator.binding.check ++ (declarator.init.map Expr.visits).getD []

/-- Module-level declarations have a walk of their own and are passed over here. -/
def Statement.visits : Statement → List Visit
  | .moduleItem .. | .empty _ => []
  | .expression expr _ => expr.visits
  | .declaration decl => decl.declarators.flatMap Declarator.visits
  | .unsupported kind span => [.refused ⟨.statement kind, span⟩]

def Program.visits (program : Program) : List Visit :=
  program.body.flatMap Statement.visits

/-- The violation that a module-level declaration is. -/
def Statement.moduleViolation? : Statement → Option Violation
  | .moduleItem kind span => some ⟨kind.construct, span⟩
  | .expression .. | .declaration _ | .empty _ | .unsupported .. => none

/-- The module-level declarations of a file, in statement order. -/
def Program.moduleViolations (program : Program) : List Violation :=
  program.body.filterMap Statement.moduleViolation?

/-- Everything that the policy refuses in a file, in the order in which a whole
compilation meets it: module-level declarations first, then the walk. -/
def Program.violations (program : Program) : List Violation :=
  program.moduleViolations ++ refusals program.visits

mutual

/-- The call for an element, without what the policy refuses in it. -/
def Element.image : Element → CreateCall
  | ⟨name, attributes, children, _, span⟩ =>
    ⟨name, if attributes.isEmpty then none else some (imagesOfAttributes attributes),
      imagesOfChildren children, span⟩

def Expr.image : Expr → Option Argument
  | .element inner => some (.create inner.image)
  | expr => expr.check.toOption.map .reference

def AttributeValue.image : AttributeValue → Option Argument
  | .absent => some (.boolean true)
  | .text value _ => some (.string value)
  | .expression expr => expr.image
  | .empty _ => none

def Attribute.image : Attribute → Option Output.Property
  | .named name value _ => value.image.map fun argument => ⟨Key.ofName name, argument⟩
  | .spread _ => none

def imagesOfAttributes : List Attribute → List Output.Property
  | [] => []
  | item :: rest =>
    match item.image with
    | none => imagesOfAttributes rest
    | some property => property :: imagesOfAttributes rest

def Child.image : Child → Option Argument
  | .text value _ => if isLayout value then none else some (.string value)
  | .element inner => some (.create inner.image)
  | .expression expr => expr.image
  | .empty _ | .unsupported .. => none

def imagesOfChildren : List Child → List Argument
  | [] => []
  | child :: rest =>
    match child.image with
    | none => imagesOfChildren rest
    | some argument => argument :: imagesOfChildren rest

end

/-- A declared name with the image of its initializer. -/
def Declarator.image (declarator : Declarator) : Option (String × Option Argument) :=
  declarator.binding.check.toOption.map fun name => (name, declarator.init.bind Expr.image)

def Statement.image : Statement → Option Output.Statement
  | .moduleItem .. | .empty _ | .unsupported .. => none
  | .expression expr _ => expr.image.map .expression
  | .declaration decl => some (.declaration decl.kind (decl.declarators.filterMap Declarator.image))

def Program.image (program : Program) : Output.Program :=
  ⟨program.body.filterMap Statement.image⟩

-- An expression that is no element only passes the check, whatever its shape.
theorem Expr.visits_of_not_element (expr : Expr) (plain : expr.element? = none) :
    expr.visits = Pass.checkVisits expr.check := by
  cases expr
  case element inner => cases plain
  all_goals simp only [Expr.visits]

theorem Expr.image_of_not_element (expr : Expr) (plain : expr.element? = none) :
    expr.image = expr.check.toOption.map Argument.reference := by
  cases expr
  case element inner => cases plain
  all_goals simp only [Expr.image]

private theorem Expr.compile_of_not_element (expr : Expr) (plain : expr.element? = none) :
    Pass.Follows expr.compile expr.visits expr.image := by
  have checked := (Pass.check_follows expr.check).map fun reference => reference.map Argument.reference
  cases expr
  case element inner => cases plain
  all_goals exact checked

mutual

theorem Element.compile_follows : (element : Element) →
    Pass.Follows element.compile element.visits element.image
  | ⟨name, attributes, children, selfClosing, span⟩ => by
    simp only [Element.compile, Element.visits, Element.image]
    apply Pass.enter_follows
    exact (compileAttributes_follows attributes).bind ((compileChildren_follows children).map _)

theorem Expr.compile_follows : (expr : Expr) → Pass.Follows expr.compile expr.visits expr.image
  | .element inner => by
    simp only [Expr.compile, Expr.visits, Expr.image]
    exact inner.compile_follows.map _
  | .identifier .. | .literal _ | .member .. | .call _ | .binary .. | .unary .. | .conditional _
  | .assignment _ | .arrow _ | .template _ | .unsupported .. =>
    Expr.compile_of_not_element _ rfl

theorem AttributeValue.compile_follows : (value : AttributeValue) →
    Pass.Follows value.compile value.visits value.image
  | .absent => by
    simp only [AttributeValue.compile, AttributeValue.visits, AttributeValue.image]
    exact Pass.Follows.pure _
  | .text value _ => by
    simp only [AttributeValue.compile, AttributeValue.visits, AttributeValue.image]
    exact Pass.Follows.pure _
  | .expression expr => by
    simp only [AttributeValue.compile, AttributeValue.visits, AttributeValue.image]
    exact expr.compile_follows
  | .empty span => by
    simp only [AttributeValue.compile, AttributeValue.visits, AttributeValue.image]
    exact (Pass.reject_follows _).map _

private theorem compileAttributes_follows : (attributes : List Attribute) →
    Pass.Follows (compileAttributes attributes) (visitsOfAttributes attributes)
      (imagesOfAttributes attributes)
  | [] => by
    simp only [compileAttributes, visitsOfAttributes, imagesOfAttributes]
    exact Pass.Follows.pure _
  | .spread span :: rest => by
    simp only [compileAttributes, visitsOfAttributes, imagesOfAttributes, Attribute.visits,
      Attribute.image]
    exact (Pass.reject_follows _).seq (compileAttributes_follows rest)
  | .named name value _ :: rest => by
    simp only [compileAttributes, visitsOfAttributes, imagesOfAttributes, Attribute.visits,
      Attribute.image]
    apply value.compile_follows.bind
    cases value.image with
    | none => exact compileAttributes_follows rest
    | some argument => exact (compileAttributes_follows rest).map _

theorem Child.compile_follows : (child : Child) →
    Pass.Follows child.compile child.visits child.image
  | .text value _ => by
    simp only [Child.compile, Child.visits, Child.image]
    exact Pass.Follows.pure _
  | .element inner => by
    simp only [Child.compile, Child.visits, Child.image]
    exact inner.compile_follows.map _
  | .expression expr => by
    simp only [Child.compile, Child.visits, Child.image]
    exact expr.compile_follows
  | .empty _ => by
    simp only [Child.compile, Child.visits, Child.image]
    exact Pass.Follows.pure _
  | .unsupported kind span => by
    simp only [Child.compile, Child.visits, Child.image]
    exact (Pass.reject_follows _).map _

private theorem compileChildren_follows : (children : List Child) →
    Pass.Follows (compileChildren children) (visitsOfChildren children) (imagesOfChildren children)
  | [] => by
    simp only [compileChildren, visitsOfChildren, imagesOfChildren]
    exact Pass.Follows.pure _
  | child :: rest => by
    simp only [compileChildren, visitsOfChildren, imagesOfChildren]
    apply child.compile_follows.bind
    cases child.image with
    | none => exact compileChildren_follows rest
    | some argument => exact (compileChildren_follows rest).map _

end

/-- A refused binding leaves its declarator out and changes nothing for the later ones. -/
theorem declare_follows (binding : Binding) (init : Option Argument)
    {later : PassM (List (String × Option Argument))} {visits : List Visit}
    {declared : List (String × Option Argument)} (follows : Pass.Follows later visits declared) :
    Pass.Follows
      (match binding.check.toOption with
        | some name => return (name, init) :: (← later)
        | none => later)
      visits ((binding.check.toOption.map fun name => (name, init)).toList ++ declared) := by
  cases binding with
  | identifier name span => exact follows.map _
  | pattern span => exact follows

private theorem compileDeclarators_follows (declarators : List Declarator) :
    Pass.Follows (compileDeclarators declarators) (declarators.flatMap Declarator.visits)
      (declarators.filterMap Declarator.image) := by
  induction declarators with
  | nil => exact Pass.Follows.pure []
  | cons declarator rest ih =>
    obtain ⟨binding, init, span⟩ := declarator
    have images : (⟨binding, init, span⟩ :: rest).filterMap Declarator.image =
        (binding.check.toOption.map fun name => (name, init.bind Expr.image)).toList ++
          rest.filterMap Declarator.image := by
      cases binding <;> rfl
    simp only [compileDeclarators, List.flatMap_cons, Declarator.visits, List.append_assoc, images]
    apply (Pass.check_follows binding.check).bind
    cases init with
    | none => exact declare_follows binding none ih
    | some expr => exact expr.compile_follows.bind (declare_follows binding expr.image ih)

theorem Statement.compile_follows (statement : Statement) :
    Pass.Follows statement.compile statement.visits statement.image := by
  cases statement with
  | moduleItem kind span => exact Pass.Follows.pure none
  | empty span => exact Pass.Follows.pure none
  | expression expr span => exact expr.compile_follows.map _
  | declaration decl => exact (compileDeclarators_follows decl.declarators).map _
  | unsupported kind span => exact (Pass.reject_follows _).map _

private theorem compileStatements_follows (statements : List Statement) :
    Pass.Follows (compileStatements statements) (statements.flatMap Statement.visits)
      (statements.filterMap Statement.image) := by
  induction statements with
  | nil => exact Pass.Follows.pure []
  | cons statement rest ih =>
    simp only [compileStatements, List.flatMap_cons, List.filterMap_cons]
    apply statement.compile_follows.bind
    cases statement.image with
    | none => exact ih
    | some output => exact ih.map _

private theorem rejectModuleItems_follows (statements : List Statement) :
    Pass.Follows (rejectModuleItems statements)
      ((statements.filterMap Statement.moduleViolation?).map .refused) () := by
  induction statements with
  | nil => exact Pass.Follows.pure ()
  | cons statement rest ih =>
    have checked := (Pass.check_follows statement.checkModuleItem).seq ih
    cases statement <;> exact checked

/-- The first mode looks for module-level declarations apart from the pass, and
only the first of them counts. -/
theorem checkModuleItems_eq (statements : List Statement) :
    checkModuleItems statements =
      match statements.filterMap Statement.moduleViolation? with
      | [] => .ok ()
      | violation :: _ => .error violation := by
  induction statements with
  | nil => rfl
  | cons statement rest ih =>
    cases statement with
    | moduleItem kind span => rfl
    | expression expr span => exact ih
    | declaration decl => exact ih
    | empty span => exact ih
    | unsupported kind span => exact ih

theorem Program.compileBody_collect (program : Program) (pass : Pass)
    (collect : pass.mode = .collect) :
    program.compileBody.run.run pass =
      pass.replay program.image (program.moduleViolations.map .refused ++ program.visits) := by
  have whole := (rejectModuleItems_follows program.body).seq
    ((compileStatements_follows program.body).map Output.Program.mk)
  have opened : program.compileBody.run.run pass = StateT.run (ExceptT.run
      (rejectModuleItems program.body >>= fun _ =>
        compileStatements program.body >>= fun body => pure (Output.Program.mk body))) pass := by
    obtain ⟨mode, violations, elements, events⟩ := pass
    cases collect
    rfl
  exact opened.trans (whole pass)

/-- In the first mode the search for module-level declarations leaves no trace. -/
theorem Program.compileBody_opens (program : Program) (pass : Pass) (first : pass.mode = .first) :
    program.compileBody.run.run pass =
      match program.checkModuleItems with
      | .ok () => StateT.run (ExceptT.run
          (compileStatements program.body >>= fun body => pure (Output.Program.mk body))) pass
      | .error violation => (.error violation, pass) := by
  obtain ⟨mode, violations, elements, events⟩ := pass
  cases first
  simp only [compileBody]
  cases program.checkModuleItems <;> rfl

theorem Program.compileBody_first (program : Program) (pass : Pass) (first : pass.mode = .first) :
    program.compileBody.run.run pass =
      match program.moduleViolations with
      | [] => pass.replay program.image program.visits
      | violation :: _ => (.error violation, pass) := by
  have whole := (compileStatements_follows program.body).map Output.Program.mk
  rw [program.compileBody_opens pass first, Program.checkModuleItems, checkModuleItems_eq,
    ← Program.moduleViolations]
  cases program.moduleViolations with
  | nil => exact whole pass
  | cons violation rest => rfl

end LogicFree.Template
