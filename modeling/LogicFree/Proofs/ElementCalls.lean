import Mathlib.Data.List.Basic
import LogicFree.Proofs.ErrorModes

/-! Elements and their calls, each before what it holds and its attributes before its
children. The calls of compiled code are the images of the template's elements, one for
one and in this order, and those of them that are not nested belong to the roots. -/

namespace LogicFree

namespace Output

mutual

def Argument.calls : Argument → List CreateCall
  | .create call => call.calls
  | .string _ | .boolean _ | .reference _ => []

/-- A call and all calls inside it, itself first. -/
def CreateCall.calls : CreateCall → List CreateCall
  | ⟨tag, attributes, children, span⟩ =>
    ⟨tag, attributes, children, span⟩ :: (callsOfAttributes attributes ++ callsOfChildren children)

def callsOfAttributes : Option (List Property) → List CreateCall
  | none => []
  | some properties => callsOfProperties properties

def Property.calls : Property → List CreateCall
  | ⟨_, value⟩ => value.calls

def callsOfProperties : List Property → List CreateCall
  | [] => []
  | property :: rest => property.calls ++ callsOfProperties rest

def callsOfChildren : List Argument → List CreateCall
  | [] => []
  | child :: rest => child.calls ++ callsOfChildren rest

end

/-- The call that an argument is. -/
def Argument.call? : Argument → Option CreateCall
  | .create call => some call
  | .string _ | .boolean _ | .reference _ => none

/-- The arguments that a statement holds directly. -/
def Statement.sites : Statement → List Argument
  | .expression argument => [argument]
  | .declaration _ declarators => declarators.filterMap Prod.snd

def Program.sites (program : Program) : List Argument := program.body.flatMap Statement.sites

/-- The calls that stand directly at an expression statement or as the initializer of a
declarator. -/
def Program.roots (program : Program) : List CreateCall := program.sites.filterMap Argument.call?

/-- All calls of a compiled file, statement by statement. -/
def Program.calls (program : Program) : List CreateCall := program.sites.flatMap Argument.calls

end Output

namespace Template
open Output (Argument CreateCall)

mutual

/-- An element and all elements inside it, itself first. -/
def Element.elements : Element → List Element
  | ⟨name, attributes, children, selfClosing, span⟩ =>
    ⟨name, attributes, children, selfClosing, span⟩ ::
      (elementsOfAttributes attributes ++ elementsOfChildren children)

/-- The elements that an expression is made of. An element that something is read off is
refused with the whole expression and does not count. -/
def Expr.elements : Expr → List Element
  | .element inner => inner.elements
  | _ => []

def AttributeValue.elements : AttributeValue → List Element
  | .absent | .text .. | .empty _ => []
  | .expression expr => expr.elements

def Attribute.elements : Attribute → List Element
  | .named _ value _ => value.elements
  | .spread _ => []

def elementsOfAttributes : List Attribute → List Element
  | [] => []
  | item :: rest => item.elements ++ elementsOfAttributes rest

def Child.elements : Child → List Element
  | .element inner => inner.elements
  | .expression expr => expr.elements
  | .text .. | .empty _ | .unsupported .. => []

def elementsOfChildren : List Child → List Element
  | [] => []
  | child :: rest => child.elements ++ elementsOfChildren rest

end

def Program.sites (program : Program) : List Expr := program.body.flatMap Statement.sites

/-- All elements of a template, statement by statement. -/
def Program.elements (program : Program) : List Element := program.sites.flatMap Expr.elements

theorem Element.tag_image (element : Element) : element.image.tag = element.name := by
  cases element
  rw [Element.image]

theorem Element.span_image (element : Element) : element.image.span = element.span := by
  cases element
  rw [Element.image]

theorem Expr.elements_of_not_element (expr : Expr) (plain : expr.element? = none) :
    expr.elements = [] := by
  cases expr
  case element inner => cases plain
  all_goals rw [Expr.elements]; exact nofun

/-- A plain read holds no call. -/
theorem Expr.calls_image_of_not_element (expr : Expr) (plain : expr.element? = none) :
    expr.image.toList.flatMap Argument.calls = expr.elements.map Element.image := by
  rw [expr.image_of_not_element plain, expr.elements_of_not_element plain]
  cases expr.check with
  | error violation => rfl
  | ok reference =>
    simp only [Except.toOption, Option.map_some, Option.toList_some, List.flatMap_singleton,
      Argument.calls, List.map_nil]

private theorem callsOfProperties_images_cons (item : Attribute) (rest : List Attribute) :
    Output.callsOfProperties (imagesOfAttributes (item :: rest)) =
      item.image.toList.flatMap Output.Property.calls ++
        Output.callsOfProperties (imagesOfAttributes rest) := by
  rw [imagesOfAttributes]
  cases item.image with
  | none => rfl
  | some property =>
    rw [Output.callsOfProperties, Option.toList_some, List.flatMap_singleton]

private theorem callsOfChildren_images_cons (child : Child) (rest : List Child) :
    Output.callsOfChildren (imagesOfChildren (child :: rest)) =
      child.image.toList.flatMap Argument.calls ++ Output.callsOfChildren (imagesOfChildren rest) := by
  rw [imagesOfChildren]
  cases child.image with
  | none => rfl
  | some argument => rw [Output.callsOfChildren, Option.toList_some, List.flatMap_singleton]

-- Only what is no element can be refused, so passing refused nodes over loses no element.
mutual

theorem Element.calls_image : (element : Element) →
    element.image.calls = element.elements.map Element.image
  | ⟨name, attributes, children, selfClosing, span⟩ => by
    have items := calls_imagesOfAttributes attributes
    have content := calls_imagesOfChildren children
    rw [Element.elements, List.map_cons, List.map_append, ← items, ← content, Element.image,
      CreateCall.calls]
    cases attributes with
    | nil => rfl
    | cons item rest => rfl

theorem Expr.calls_image : (expr : Expr) →
    expr.image.toList.flatMap Argument.calls = expr.elements.map Element.image
  | .element inner => by
    rw [Expr.image, Expr.elements, Option.toList_some, List.flatMap_singleton, Argument.calls]
    exact inner.calls_image
  | .identifier .. | .literal _ | .member .. | .call _ | .binary .. | .unary .. | .conditional _
  | .assignment _ | .arrow _ | .template _ | .unsupported .. =>
    Expr.calls_image_of_not_element _ rfl

theorem AttributeValue.calls_image : (value : AttributeValue) →
    value.image.toList.flatMap Argument.calls = value.elements.map Element.image
  | .absent | .text .. => by
    rw [AttributeValue.image, AttributeValue.elements, Option.toList_some, List.flatMap_singleton,
      Argument.calls]
    rfl
  | .expression expr => by
    rw [AttributeValue.image, AttributeValue.elements]
    exact expr.calls_image
  | .empty _ => by
    rw [AttributeValue.image, AttributeValue.elements]
    rfl

theorem Attribute.calls_image : (item : Attribute) →
    item.image.toList.flatMap Output.Property.calls = item.elements.map Element.image
  | .named name value _ => by
    have held := value.calls_image
    rw [Attribute.image, Attribute.elements, ← held]
    cases value.image with
    | none => rfl
    | some argument =>
      simp only [Option.map_some, Option.toList_some, List.flatMap_singleton, Output.Property.calls]
  | .spread _ => by
    rw [Attribute.image, Attribute.elements]
    rfl

private theorem calls_imagesOfAttributes : (attributes : List Attribute) →
    Output.callsOfProperties (imagesOfAttributes attributes) =
      (elementsOfAttributes attributes).map Element.image
  | [] => by
    rw [imagesOfAttributes, elementsOfAttributes]
    rfl
  | item :: rest => by
    rw [callsOfProperties_images_cons, elementsOfAttributes, List.map_append, item.calls_image,
      calls_imagesOfAttributes rest]

theorem Child.calls_image : (child : Child) →
    child.image.toList.flatMap Argument.calls = child.elements.map Element.image
  | .text value _ => by
    rw [Child.image, Child.elements]
    cases isLayout value <;> rfl
  | .element inner => by
    rw [Child.image, Child.elements, Option.toList_some, List.flatMap_singleton, Argument.calls]
    exact inner.calls_image
  | .expression expr => by
    rw [Child.image, Child.elements]
    exact expr.calls_image
  | .empty _ | .unsupported .. => by
    rw [Child.image, Child.elements]
    rfl

private theorem calls_imagesOfChildren : (children : List Child) →
    Output.callsOfChildren (imagesOfChildren children) =
      (elementsOfChildren children).map Element.image
  | [] => by
    rw [imagesOfChildren, elementsOfChildren]
    rfl
  | child :: rest => by
    rw [callsOfChildren_images_cons, elementsOfChildren, List.map_append, child.calls_image,
      calls_imagesOfChildren rest]

end

/-- An accepted declarator binds a name, and its initializer becomes that of the name. -/
theorem Declarator.image_of_accepted (declarator : Declarator)
    (accepted : refusals declarator.visits = []) :
    ∃ name, declarator.image = some (name, declarator.init.bind Expr.image) := by
  obtain ⟨binding, init, span⟩ := declarator
  cases binding with
  | identifier name place => exact ⟨name, rfl⟩
  | pattern place => cases accepted

private theorem declarators_sites_image (declarators : List Declarator)
    (accepted : ∀ declarator ∈ declarators, refusals declarator.visits = []) :
    (declarators.filterMap Declarator.image).filterMap Prod.snd =
      (declarators.filterMap (·.init)).filterMap Expr.image := by
  rw [List.filterMap_filterMap, List.filterMap_filterMap]
  apply List.filterMap_congr
  intro declarator member
  obtain ⟨name, image⟩ := declarator.image_of_accepted (accepted declarator member)
  rw [image]
  rfl

/-- What an accepted statement becomes holds the images of what the statement holds. -/
theorem Statement.sites_image (statement : Statement) (accepted : refusals statement.visits = []) :
    statement.image.toList.flatMap Output.Statement.sites =
      statement.sites.filterMap Expr.image := by
  cases statement with
  | moduleItem kind span => rfl
  | empty span => rfl
  | unsupported kind span => rfl
  | expression expr span =>
    rw [Statement.image, Statement.sites, List.filterMap_cons]
    cases expr.image <;> rfl
  | declaration decl =>
    rw [Statement.visits, refusals_flatMap, List.flatMap_eq_nil_iff] at accepted
    rw [Statement.image, Option.toList_some, List.flatMap_singleton]
    exact declarators_sites_image decl.declarators accepted

theorem Program.walk_accepted {program : Program} (accepted : program.violations = []) :
    refusals program.visits = [] :=
  (List.append_eq_nil_iff.mp accepted).2

private theorem Program.sites_image (program : Program) (accepted : program.violations = []) :
    program.image.sites = program.sites.filterMap Expr.image := by
  have walk := walk_accepted accepted
  rw [visits, refusals_flatMap, List.flatMap_eq_nil_iff] at walk
  rw [Output.Program.sites, Program.image, List.filterMap_eq_flatMap_toList, List.flatMap_assoc,
    Program.sites, List.filterMap_flatMap]
  apply List.flatMap_congr
  intro statement member
  exact statement.sites_image (walk statement member)

/-- The calls of accepted code are the images of the template's elements. -/
theorem Program.calls_image (program : Program) (accepted : program.violations = []) :
    program.image.calls = program.elements.map Element.image := by
  rw [Output.Program.calls, program.sites_image accepted, Program.elements, List.map_flatMap,
    List.filterMap_eq_flatMap_toList, List.flatMap_assoc]
  simp only [Expr.calls_image]

private theorem Expr.call?_image (expr : Expr) :
    expr.image.bind Argument.call? = expr.element?.map Element.image := by
  cases kind : expr.element? with
  | some inner =>
    cases expr <;> cases kind
    rw [Expr.image]
    rfl
  | none =>
    rw [expr.image_of_not_element kind]
    cases expr.check <;> rfl

private theorem Program.roots_image (program : Program) (accepted : program.violations = []) :
    program.image.roots = program.roots.map Element.image := by
  rw [Output.Program.roots, program.sites_image accepted, List.filterMap_filterMap, Program.roots,
    ← List.filterMap_flatMap, ← Program.sites, List.map_filterMap]
  simp only [Expr.call?_image]

/-- The roots of a template that compiles are the elements whose calls stand directly at a
statement of the code or as an initializer in it, in order. -/
theorem Program.roots_called (program : Program) (mode : Mode) (output : Output.Program)
    (compiled : (program.compile mode).1 = .ok output) :
    output.roots.map CreateCall.tag = program.roots.map Element.name := by
  obtain ⟨accepted, rfl⟩ := (program.compile_eq_ok_iff mode output).mp compiled
  rw [program.roots_image accepted, List.map_map]
  apply List.map_congr_left
  intro element _
  exact element.tag_image

theorem Program.roots_called_mixed :
    let nested : Element := ⟨"li", [], [.text "one" {}], false, {}⟩
    let program : Program := ⟨[.empty {}, .declaration ⟨.constant,
      [⟨.identifier "list" {}, some (.element ⟨"ul", [], [.element nested], false, {}⟩), {}⟩,
        ⟨.identifier "later" {}, none, {}⟩,
        ⟨.identifier "name" {}, some (.identifier "title" {}), {}⟩,
        ⟨.identifier "rule" {}, some (.element ⟨"hr", [], [], true, {}⟩), {}⟩], {}⟩,
      .expression (.element ⟨"p", [.named "of" (.expression (.element nested)) {}], [], true, {}⟩) {}], {}⟩
    ∃ output, (program.compile .collect).1 = .ok output ∧
      output.roots.map CreateCall.tag = ["ul", "hr", "p"] := by
  intro nested program
  refine ⟨_, rfl, ?_⟩
  exact Program.roots_called program .collect _ rfl

end Template

end LogicFree
