import Mathlib.Data.List.Basic
import LogicFree.Proofs.OutputForms
import LogicFree.Proofs.Translation

/-! The part of a template that matters. Places, the way in which an element is
closed, numeric values, empty statements, empty braces, layout between children and
braces around a child element are not in it. Two templates with one significant part
compile to one text or are refused for the same constructs. -/

namespace LogicFree

namespace Output

private theorem Reference.essence_essence (reference : Reference) :
    reference.essence.essence = reference.essence := by
  induction reference with
  | identifier name => rfl
  | literal value => cases value <;> rfl
  | member object property ih => simp only [essence, ih]

theorem Argument.essence_reference (reference : Reference) :
    (Argument.reference reference.essence).essence = (Argument.reference reference).essence := by
  cases reference with
  | identifier name => rfl
  | literal value => cases value <;> rfl
  | member object property =>
    have stable := (Reference.member object property).essence_essence
    simp only [Reference.essence] at stable
    simp only [Reference.essence, Argument.essence, stable]

end Output

namespace Template
open Output (Argument)

def Literal.significant : Literal → Literal
  | .string value _ => .string value {}
  | .number _ raw _ => .number 0 raw {}
  | .boolean value _ => .boolean value {}

/-- A child that is an expression. Braces around an element make no difference. -/
def Child.ofExpr : Expr → Child
  | .element inner => .element inner
  | expr => .expression expr

mutual

def Expr.significant : Expr → Expr
  | .identifier name _ => .identifier name {}
  | .literal value => .literal value.significant
  | .member object property _ => .member object.significant property.significant {}
  | .call _ => .call {}
  | .binary operator _ => .binary operator {}
  | .unary operator _ => .unary operator {}
  | .conditional _ => .conditional {}
  | .assignment _ => .assignment {}
  | .arrow _ => .arrow {}
  | .template _ => .template {}
  | .element inner => .element inner.significant
  | .unsupported kind _ => .unsupported kind {}

def Property.significant : Property → Property
  | .named name _ => .named name {}
  | .computed index => .computed index.significant
  | .hidden _ => .hidden {}

def Element.significant : Element → Element
  | ⟨name, attributes, children, _, _⟩ =>
    ⟨name, significantAttributes attributes, significantChildren children, false, {}⟩

def Attribute.significant : Attribute → Attribute
  | .named name value _ => .named name value.significant {}
  | .spread _ => .spread {}

def AttributeValue.significant : AttributeValue → AttributeValue
  | .absent => .absent
  | .text value _ => .text value {}
  | .expression expr => .expression expr.significant
  | .empty _ => .empty {}

def significantAttributes : List Attribute → List Attribute
  | [] => []
  | item :: rest => item.significant :: significantAttributes rest

def Child.significant : Child → Child
  | .text value _ => .text value {}
  | .element inner => .element inner.significant
  | .expression expr => .ofExpr expr.significant
  | .empty _ => .empty {}
  | .unsupported kind _ => .unsupported kind {}

/-- Children that are no content are left out. -/
def significantChildren : List Child → List Child
  | [] => []
  | child :: rest =>
    if child.Content then child.significant :: significantChildren rest
    else significantChildren rest

end

def Binding.significant : Binding → Binding
  | .identifier name _ => .identifier name {}
  | .pattern _ => .pattern {}

def Declarator.significant (declarator : Declarator) : Declarator :=
  ⟨declarator.binding.significant, declarator.init.map Expr.significant, {}⟩

def Statement.significant : Statement → Statement
  | .moduleItem kind _ => .moduleItem kind {}
  | .expression expr _ => .expression expr.significant {}
  | .declaration decl => .declaration ⟨decl.kind, decl.declarators.map Declarator.significant, {}⟩
  | .empty _ => .empty {}
  | .unsupported kind _ => .unsupported kind {}

/-- Empty statements are left out. -/
def Program.significant (program : Program) : Program :=
  ⟨(program.body.filter (!·.isEmpty)).map Statement.significant, {}⟩

private theorem Expr.significant_ne_literal (expr : Expr) (other : ∀ value, expr ≠ .literal value)
    (value : Literal) : expr.significant ≠ .literal value := by
  cases expr
  case literal value => exact absurd rfl (other value)
  all_goals simp only [Expr.significant, ne_eq, reduceCtorEq, not_false_eq_true]

/-- The check reads the same data and refuses the same construct. -/
theorem Expr.check_significant (expr : Expr) :
    expr.significant.check =
      match expr.check with
      | .ok reference => .ok reference.essence
      | .error violation => .error ⟨violation.construct, {}⟩ := by
  fun_induction Expr.check expr with
  | case2 value =>
    cases value <;> simp only [Expr.significant, Literal.significant, Expr.check, Output.Reference.essence]
  | case5 value name place span =>
    cases value <;>
      simp only [Expr.significant, Property.significant, Literal.significant, Expr.check, Literal.span]
  | case6 object name place span other ih =>
    rw [Expr.significant, Property.significant, Expr.check]
    · rw [ih]
      cases object.check <;> rfl
    · exact fun value => object.significant_ne_literal other value
  | case14 inner =>
    cases inner
    simp only [Expr.significant, Element.significant, Expr.check]
  | _ => simp only [Expr.significant, Property.significant, Expr.check, Output.Reference.essence]

/-- The constructs that a walk refuses, in its order. -/
def constructs (visits : List Visit) : List Construct :=
  (refusals visits).map Violation.construct

private theorem constructs_append (first second : List Visit) :
    constructs (first ++ second) = constructs first ++ constructs second := by
  rw [constructs, refusals_append, List.map_append]
  rfl

private theorem constructs_flatMap (items : List α) (visits : α → List Visit) :
    constructs (items.flatMap visits) = items.flatMap fun item => constructs (visits item) := by
  rw [constructs, refusals_flatMap, List.map_flatMap]
  rfl

private theorem Child.visits_ofExpr (expr : Expr) : (Child.ofExpr expr).visits = expr.visits := by
  cases expr <;> simp only [Child.ofExpr, Child.visits, Expr.visits]

private theorem Child.image_ofExpr (expr : Expr) : (Child.ofExpr expr).image = expr.image := by
  cases expr <;> simp only [Child.ofExpr, Child.image, Expr.image]

private theorem Child.visits_of_not_content (child : Child) (layout : ¬ child.Content) :
    child.visits = [] := by
  cases child with
  | text value span => rw [Child.visits]
  | empty span => rw [Child.visits]
  | element inner => exact absurd trivial layout
  | expression expr => exact absurd trivial layout
  | unsupported kind span => exact absurd trivial layout

private theorem Expr.element?_significant (expr : Expr) :
    expr.significant.element? = expr.element?.map Element.significant := by
  cases expr <;> simp only [Expr.significant, Expr.element?, Option.map]

private theorem Expr.significant_of_not_element (expr : Expr) (plain : expr.element? = none) :
    constructs expr.significant.visits = constructs expr.visits ∧
      expr.significant.image.map Argument.essence = expr.image.map Argument.essence := by
  have still : expr.significant.element? = none := by
    rw [expr.element?_significant, plain]
    rfl
  rw [expr.visits_of_not_element plain, expr.image_of_not_element plain,
    expr.significant.visits_of_not_element still, expr.significant.image_of_not_element still,
    expr.check_significant]
  cases expr.check with
  | error violation => exact ⟨rfl, rfl⟩
  | ok reference => exact ⟨rfl, congrArg some (Argument.essence_reference reference)⟩

mutual

private theorem Element.constructs_significant : (element : Element) →
    constructs element.significant.visits = constructs element.visits
  | ⟨name, attributes, children, selfClosing, span⟩ => by
    have items := constructs_significantAttributes attributes
    have content := constructs_significantChildren children
    simp only [constructs] at items content
    simp only [Element.significant, Element.visits, constructs, refusals_entered, refusals_append,
      List.map_append, items, content]

private theorem Expr.constructs_significant : (expr : Expr) →
    constructs expr.significant.visits = constructs expr.visits
  | .element inner => by
    rw [Expr.significant, Expr.visits, Expr.visits]
    exact inner.constructs_significant
  | .identifier .. | .literal _ | .member .. | .call _ | .binary .. | .unary .. | .conditional _
  | .assignment _ | .arrow _ | .template _ | .unsupported .. =>
    (Expr.significant_of_not_element _ rfl).1

private theorem Attribute.constructs_significant : (item : Attribute) →
    constructs item.significant.visits = constructs item.visits
  | .spread _ => by
    simp only [Attribute.significant, Attribute.visits]
    rfl
  | .named _ .absent _ | .named _ (.text ..) _ => by
    simp only [Attribute.significant, AttributeValue.significant, Attribute.visits, AttributeValue.visits]
  | .named _ (.expression expr) _ => by
    simp only [Attribute.significant, AttributeValue.significant, Attribute.visits, AttributeValue.visits]
    exact expr.constructs_significant
  | .named _ (.empty _) _ => by
    simp only [Attribute.significant, AttributeValue.significant, Attribute.visits, AttributeValue.visits]
    rfl

private theorem constructs_significantAttributes : (attributes : List Attribute) →
    constructs (visitsOfAttributes (significantAttributes attributes)) =
      constructs (visitsOfAttributes attributes)
  | [] => by rw [significantAttributes]
  | item :: rest => by
    simp only [significantAttributes, visitsOfAttributes, constructs_append, item.constructs_significant,
      constructs_significantAttributes rest]

private theorem Child.constructs_significant : (child : Child) →
    constructs child.significant.visits = constructs child.visits
  | .text .. | .empty _ => by simp only [Child.significant, Child.visits]
  | .element inner => by
    simp only [Child.significant, Child.visits]
    exact inner.constructs_significant
  | .expression expr => by
    simp only [Child.significant, Child.visits_ofExpr, Child.visits]
    exact expr.constructs_significant
  | .unsupported .. => by
    simp only [Child.significant, Child.visits]
    rfl

private theorem constructs_significantChildren : (children : List Child) →
    constructs (visitsOfChildren (significantChildren children)) =
      constructs (visitsOfChildren children)
  | [] => by rw [significantChildren]
  | child :: rest => by
    rw [significantChildren, visitsOfChildren, constructs_append]
    split
    next content =>
      rw [visitsOfChildren, constructs_append, child.constructs_significant,
        constructs_significantChildren rest]
    next layout =>
      rw [child.visits_of_not_content layout, constructs_significantChildren rest]
      rfl

end

private theorem essence_imagesOfAttributes_cons (item : Attribute) (rest : List Attribute) :
    Output.essenceOfProperties (imagesOfAttributes (item :: rest)) =
      (item.image.map Output.Property.essence).toList ++
        Output.essenceOfProperties (imagesOfAttributes rest) := by
  rw [imagesOfAttributes]
  cases item.image with
  | none => rfl
  | some property => rw [Output.essenceOfProperties]; rfl

private theorem essence_imagesOfChildren_cons (child : Child) (rest : List Child) :
    Output.essenceOfChildren (imagesOfChildren (child :: rest)) =
      (child.image.map Argument.essence).toList ++ Output.essenceOfChildren (imagesOfChildren rest) := by
  rw [imagesOfChildren]
  cases child.image with
  | none => rfl
  | some argument => rw [Output.essenceOfChildren]; rfl

private theorem Attribute.essence_image_named (name : String) (value : AttributeValue) (span : Span) :
    (Attribute.named name value span).image.map Output.Property.essence =
      (value.image.map Argument.essence).map fun argument => ⟨Output.Key.ofName name, argument⟩ := by
  rw [Attribute.image, Option.map_map, Option.map_map]
  rfl

mutual

private theorem Element.image_significant : (element : Element) →
    element.significant.image.essence = element.image.essence
  | ⟨name, attributes, children, selfClosing, span⟩ => by
    have items := images_significantAttributes attributes
    have content := images_significantChildren children
    have bare : (significantAttributes attributes).isEmpty = attributes.isEmpty := by
      cases attributes <;> simp only [significantAttributes, List.isEmpty]
    simp only [Element.significant, Element.image, Output.CreateCall.essence, bare, content]
    cases attributes.isEmpty with
    | true => rfl
    | false => simp only [Output.essenceOfAttributes, items, Bool.false_eq_true, if_false]

private theorem Expr.image_significant : (expr : Expr) →
    expr.significant.image.map Argument.essence = expr.image.map Argument.essence
  | .element inner => by
    simp only [Expr.significant, Expr.image, Option.map_some, Argument.essence, inner.image_significant]
  | .identifier .. | .literal _ | .member .. | .call _ | .binary .. | .unary .. | .conditional _
  | .assignment _ | .arrow _ | .template _ | .unsupported .. =>
    (Expr.significant_of_not_element _ rfl).2

private theorem AttributeValue.image_significant : (value : AttributeValue) →
    value.significant.image.map Argument.essence = value.image.map Argument.essence
  | .absent | .text .. | .empty _ => by
    simp only [AttributeValue.significant, AttributeValue.image]
  | .expression expr => by
    simp only [AttributeValue.significant, AttributeValue.image]
    exact expr.image_significant

private theorem Attribute.image_significant : (item : Attribute) →
    item.significant.image.map Output.Property.essence = item.image.map Output.Property.essence
  | .spread _ => by simp only [Attribute.significant, Attribute.image]
  | .named name value span => by
    rw [Attribute.significant, Attribute.essence_image_named, Attribute.essence_image_named,
      value.image_significant]

private theorem images_significantAttributes : (attributes : List Attribute) →
    Output.essenceOfProperties (imagesOfAttributes (significantAttributes attributes)) =
      Output.essenceOfProperties (imagesOfAttributes attributes)
  | [] => by rw [significantAttributes]
  | item :: rest => by
    rw [significantAttributes, essence_imagesOfAttributes_cons, essence_imagesOfAttributes_cons,
      item.image_significant, images_significantAttributes rest]

private theorem Child.image_significant : (child : Child) →
    child.significant.image.map Argument.essence = child.image.map Argument.essence
  | .text .. | .empty _ | .unsupported .. => by simp only [Child.significant, Child.image]
  | .element inner => by
    simp only [Child.significant, Child.image, Option.map_some, Argument.essence, inner.image_significant]
  | .expression expr => by
    simp only [Child.significant, Child.image_ofExpr, Child.image]
    exact expr.image_significant

private theorem images_significantChildren : (children : List Child) →
    Output.essenceOfChildren (imagesOfChildren (significantChildren children)) =
      Output.essenceOfChildren (imagesOfChildren children)
  | [] => by rw [significantChildren]
  | child :: rest => by
    rw [significantChildren, essence_imagesOfChildren_cons]
    split
    next content =>
      rw [essence_imagesOfChildren_cons, child.image_significant, images_significantChildren rest]
    next layout =>
      rw [child.image_of_not_content layout, images_significantChildren rest]
      rfl

end

private theorem Binding.constructs_significant (binding : Binding) :
    constructs (Pass.checkVisits binding.significant.check) =
      constructs (Pass.checkVisits binding.check) := by
  cases binding <;> rfl

private theorem Declarator.constructs_significant (declarator : Declarator) :
    constructs declarator.significant.visits = constructs declarator.visits := by
  obtain ⟨binding, init, span⟩ := declarator
  simp only [Declarator.significant, Declarator.visits, constructs_append,
    binding.constructs_significant]
  cases init with
  | none => rfl
  | some expr => exact congrArg _ expr.constructs_significant

private theorem Declarator.image_significant (declarator : Declarator) :
    declarator.significant.image.map Output.essenceOfDeclarator =
      declarator.image.map Output.essenceOfDeclarator := by
  obtain ⟨binding, init, span⟩ := declarator
  have initializer : ((init.map Expr.significant).bind Expr.image).map Argument.essence =
      (init.bind Expr.image).map Argument.essence := by
    cases init with
    | none => rfl
    | some expr => exact expr.image_significant
  cases binding with
  | pattern place => rfl
  | identifier name place => exact congrArg (fun init => some (name, init)) initializer

private theorem Statement.constructs_significant (statement : Statement) :
    constructs statement.significant.visits = constructs statement.visits := by
  cases statement with
  | moduleItem kind span => rfl
  | empty span => rfl
  | unsupported kind span => rfl
  | expression expr span => exact expr.constructs_significant
  | declaration decl =>
    simp only [Statement.significant, Statement.visits, constructs_flatMap, List.flatMap_map,
      Declarator.constructs_significant]

private theorem Statement.image_significant (statement : Statement) :
    statement.significant.image.map Output.Statement.essence =
      statement.image.map Output.Statement.essence := by
  cases statement with
  | moduleItem kind span => rfl
  | empty span => rfl
  | unsupported kind span => rfl
  | expression expr span =>
    have same := congrArg (Option.map Output.Statement.expression) expr.image_significant
    simp only [Option.map_map] at same
    simp only [Statement.significant, Statement.image, Option.map_map]
    exact same
  | declaration decl =>
    simp only [Statement.significant, Statement.image, Option.map_some, Output.Statement.essence,
      List.map_filterMap, List.filterMap_map, Function.comp_def, Declarator.image_significant]

private theorem Statement.moduleViolation?_significant (statement : Statement) :
    statement.significant.moduleViolation?.map Violation.construct =
      statement.moduleViolation?.map Violation.construct := by
  cases statement <;> rfl

/-- What is gathered from the statements, and is neither in an empty one nor in the
insignificant parts of another, is gathered from the significant part. -/
theorem flatMap_significant (gather : Statement → List α)
    (empty : ∀ span, gather (.empty span) = [])
    (same : ∀ statement, gather statement.significant = gather statement) (body : List Statement) :
    ((body.filter (!·.isEmpty)).map Statement.significant).flatMap gather = body.flatMap gather := by
  simp only [List.flatMap_map, same]
  induction body with
  | nil => rfl
  | cons statement rest ih =>
    cases dropped : statement.isEmpty with
    | false =>
      rw [List.filter_cons_of_pos (by simp [dropped]), List.flatMap_cons, List.flatMap_cons, ih]
    | true =>
      have nothing : gather statement = [] := by
        cases statement with
        | empty span => exact empty span
        | moduleItem kind span => cases dropped
        | expression expr span => cases dropped
        | declaration decl => cases dropped
        | unsupported kind span => cases dropped
      rw [List.filter_cons_of_neg (by simp [dropped]), List.flatMap_cons, nothing, ih, List.nil_append]

private theorem Program.violations_significant (program : Program) :
    program.significant.violations.map Violation.construct =
      program.violations.map Violation.construct := by
  have items := flatMap_significant
    (fun statement => (statement.moduleViolation?.map Violation.construct).toList) (fun _ => rfl)
    (fun statement => congrArg Option.toList statement.moduleViolation?_significant) program.body
  have walk := flatMap_significant (fun statement => constructs statement.visits) (fun _ => rfl)
    Statement.constructs_significant program.body
  simp only [← List.filterMap_eq_flatMap_toList, ← constructs_flatMap] at items walk
  simp only [violations, moduleViolations, visits, List.map_append, List.map_filterMap]
  exact congrArg₂ _ items walk

private theorem Program.image_significant (program : Program) :
    program.significant.image.essence = program.image.essence := by
  have images := flatMap_significant
    (fun statement => (statement.image.map Output.Statement.essence).toList) (fun _ => rfl)
    (fun statement => congrArg Option.toList statement.image_significant) program.body
  simp only [← List.filterMap_eq_flatMap_toList] at images
  simp only [image, Output.Program.essence, List.map_filterMap]
  exact congrArg _ images

/-- Two compilations that nobody can tell apart who reads the code or the refused
constructs. The places of violations, and with them the order of a report, may differ. -/
inductive Alike : Mode → Except Failure Output.Program → Except Failure Output.Program → Prop where
  | compiled (mode : Mode) {output other : Output.Program} (text : output.print = other.print) :
      Alike mode (.ok output) (.ok other)
  | first {violation other : Violation} (construct : violation.construct = other.construct) :
      Alike .first (.error (.policy [violation])) (.error (.policy [other]))
  | collect {report other : List Violation}
      (constructs : (report.map Violation.construct).Perm (other.map Violation.construct)) :
      Alike .collect (.error (.policy report)) (.error (.policy other))

/-- Templates with the same significant part are compiled alike. -/
theorem Program.compile_alike (program other : Program)
    (same : program.significant = other.significant) (mode : Mode) :
    Alike mode (program.compile mode).1 (other.compile mode).1 := by
  have refused : program.violations.map Violation.construct = other.violations.map Violation.construct := by
    rw [← program.violations_significant, ← other.violations_significant, same]
  have text : program.image.print = other.image.print := by
    rw [← program.image.print_essence, ← other.image.print_essence, ← program.image_significant,
      ← other.image_significant, same]
  cases mode with
  | first =>
    rw [compile_first, compile_first]
    cases first : program.violations <;> cases second : other.violations
    all_goals simp only [first, second, List.map_nil, List.map_cons, List.cons.injEq, reduceCtorEq] at refused
    · exact .compiled .first text
    · exact .first refused.1
  | collect =>
    rw [compile_collect, compile_collect]
    have nothing : program.violations = [] ↔ other.violations = [] := by
      rw [← List.map_eq_nil_iff, refused, List.map_eq_nil_iff]
    by_cases accepted : program.violations = []
    · rw [if_pos accepted, if_pos (nothing.mp accepted)]
      exact .compiled .collect text
    · rw [if_neg accepted, if_neg (mt nothing.mpr accepted)]
      have report := ((byPlace_stablySorted program.violations).perm).map Violation.construct
      have otherReport := ((byPlace_stablySorted other.violations).perm).map Violation.construct
      rw [refused] at report
      exact .collect (report.trans otherReport.symm)

theorem Program.compile_alike_nested :
    let program : Program := ⟨[.empty {}, .expression (.element ⟨"p", [], [.text "\n " {},
      .expression (.element ⟨"br", [], [], true, {}⟩), .empty {}, .expression (.call ⟨8, 9⟩),
      .expression (.literal (.number 1 "1" ⟨3, 4⟩)), .expression (.conditional ⟨6, 7⟩)], false, {}⟩) {}], {}⟩
    let other : Program := ⟨[.expression (.element ⟨"p", [], [.element ⟨"br", [], [.text "\t" {}], false, {}⟩,
      .expression (.call {}), .expression (.literal (.number 0 "1" {})), .text " " {},
      .expression (.conditional {})], false, {}⟩) {}, .empty {}], {}⟩
    program.significant = other.significant ∧
      Alike .collect (program.compile .collect).1 (other.compile .collect).1 := by
  intro program other
  have same : program.significant = other.significant := rfl
  exact ⟨same, Program.compile_alike program other same .collect⟩

end Template

end LogicFree
