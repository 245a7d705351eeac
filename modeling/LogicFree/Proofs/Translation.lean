import Mathlib.Data.List.Forall2
import LogicFree.Proofs.AdmissibleTemplates

/-! What the code of a template is, said node by node: a relation between the tree
of a template and the tree of its code. Compiled code stands in this relation to
its template, so nothing is lost, doubled or moved at any depth. -/

namespace LogicFree

/-- A key spells a name, without quotes exactly if the name is an identifier. -/
structure Output.Key.Spells (key : Output.Key) (name : String) : Prop where
  name_eq : key.name = name
  bare_iff : key = .bare name ↔ Output.isIdentifierName name = true

theorem Output.Key.ofName_spells (name : String) : (Output.Key.ofName name).Spells name := by
  unfold Output.Key.ofName
  split
  next identifier => exact ⟨rfl, fun _ => identifier, fun _ => rfl⟩
  next other => exact ⟨rfl, nofun, fun identifier => absurd identifier other⟩

namespace Template
open Output (Argument CreateCall Key)

/-- Content is every child but braces around nothing and text that holds only
spaces, tabs, line feeds and carriage returns. -/
def Child.Content : Child → Prop
  | .text value _ => ∃ c ∈ value.toList, c ≠ ' ' ∧ c ≠ '\t' ∧ c ≠ '\n' ∧ c ≠ '\r'
  | .empty _ => False
  | .element _ | .expression _ | .unsupported .. => True

instance : DecidablePred Child.Content
  | .text value _ =>
    -- The characters of the text are searched, not all characters there are.
    List.decidableBEx (fun c => c ≠ ' ' ∧ c ≠ '\t' ∧ c ≠ '\n' ∧ c ≠ '\r') value.toList
  | .empty _ => inferInstanceAs (Decidable False)
  | .element _ | .expression _ | .unsupported .. => inferInstanceAs (Decidable True)

mutual

inductive Expr.Becomes : Expr → Argument → Prop where
  | literal (value : Literal) : Expr.Becomes (.literal value) (.reference (.literal value))
  | chain {expr : Expr} {reference : Output.Reference} (chain : expr.Chain reference) :
      Expr.Becomes expr (.reference reference)
  | element {inner : Element} {call : CreateCall} (becomes : Element.Becomes inner call) :
      Expr.Becomes (.element inner) (.create call)

inductive Element.Becomes : Element → CreateCall → Prop where
  | intro {element : Element} {call : CreateCall}
      (tag : call.tag = element.name) (span : call.span = element.span)
      (bare : call.attributes = none ↔ element.attributes = [])
      (attributes : ∀ properties, call.attributes = some properties →
        List.Forall₂ Attribute.Becomes element.attributes properties)
      (children : List.Forall₂ Child.Becomes (element.children.filter Child.Content) call.children) :
      Element.Becomes element call

inductive Attribute.Becomes : Attribute → Output.Property → Prop where
  | named {name : String} {value : AttributeValue} {key : Key} {argument : Argument}
      (spells : key.Spells name) (becomes : AttributeValue.Becomes value argument) (span : Span) :
      Attribute.Becomes (.named name value span) ⟨key, argument⟩

inductive AttributeValue.Becomes : AttributeValue → Argument → Prop where
  | absent : AttributeValue.Becomes .absent (.boolean true)
  | text (value : String) (span : Span) : AttributeValue.Becomes (.text value span) (.string value)
  | expression {expr : Expr} {argument : Argument} (becomes : Expr.Becomes expr argument) :
      AttributeValue.Becomes (.expression expr) argument

inductive Child.Becomes : Child → Argument → Prop where
  | text (value : String) (span : Span) : Child.Becomes (.text value span) (.string value)
  | element {inner : Element} {call : CreateCall} (becomes : Element.Becomes inner call) :
      Child.Becomes (.element inner) (.create call)
  | expression {expr : Expr} {argument : Argument} (becomes : Expr.Becomes expr argument) :
      Child.Becomes (.expression expr) argument

end

/-- A declarator keeps its name, and has an initializer where the source has one. -/
inductive Declarator.Becomes : Declarator → String × Option Argument → Prop where
  | bare (name : String) (place span : Span) :
      Declarator.Becomes ⟨.identifier name place, none, span⟩ (name, none)
  | initialized (name : String) {expr : Expr} {argument : Argument}
      (becomes : expr.Becomes argument) (place span : Span) :
      Declarator.Becomes ⟨.identifier name place, some expr, span⟩ (name, some argument)

inductive Statement.Becomes : Statement → Output.Statement → Prop where
  | expression {expr : Expr} {argument : Argument} (becomes : expr.Becomes argument) (span : Span) :
      Statement.Becomes (.expression expr span) (.expression argument)
  | declaration {decl : Declaration} {declarators : List (String × Option Argument)}
      (becomes : List.Forall₂ Declarator.Becomes decl.declarators declarators) :
      Statement.Becomes (.declaration decl) (.declaration decl.kind declarators)

def Statement.isEmpty : Statement → Bool
  | .empty _ => true
  | .moduleItem .. | .expression .. | .declaration _ | .unsupported .. => false

/-- Every statement but the empty ones becomes one statement of the code. -/
def Program.Becomes (program : Program) (output : Output.Program) : Prop :=
  List.Forall₂ Statement.Becomes (program.body.filter (!·.isEmpty)) output.body

private theorem Child.content_text_iff (value : String) (span : Span) :
    (Child.text value span).Content ↔ isLayout value = false := by
  simp only [Child.Content, isLayout, List.all_eq_false, Bool.or_eq_true, decide_eq_true_eq, not_or,
    and_assoc]

/-- What is no content has no image. -/
theorem Child.image_of_not_content (child : Child) (layout : ¬ child.Content) :
    child.image = none := by
  cases child with
  | text value span =>
    rw [Child.content_text_iff, Bool.not_eq_false] at layout
    rw [Child.image, if_pos layout]
  | empty span => rw [Child.image]
  | element inner => exact absurd trivial layout
  | expression expr => exact absurd trivial layout
  | unsupported kind span => exact absurd trivial layout

private theorem Expr.becomes_of_not_element (expr : Expr) (plain : expr.element? = none)
    (admissible : expr.Admissible) :
    ∃ argument, expr.image = some argument ∧ expr.Becomes argument := by
  have image := expr.image_of_not_element plain
  cases admissible with
  | literal value => exact ⟨_, image, .literal value⟩
  | @chain expr reference chain =>
    rw [chain.check_eq] at image
    exact ⟨_, image, .chain chain⟩
  | element admissible => cases plain

mutual

theorem Element.becomes_image : (element : Element) → element.Admissible →
    element.Becomes element.image
  | ⟨name, attributes, children, selfClosing, span⟩, admissible => by
    obtain ⟨itemsAdmissible, childrenAdmissible⟩ := admissible
    have properties := attributes_become attributes itemsAdmissible
    have arguments := children_become children childrenAdmissible
    rw [Element.image]
    cases attributes with
    | nil => exact .intro rfl rfl ⟨fun _ => rfl, fun _ => rfl⟩ nofun arguments
    | cons item rest =>
      refine .intro rfl rfl ⟨nofun, nofun⟩ ?_ arguments
      intro others same
      cases same
      exact properties

theorem Expr.becomes_image : (expr : Expr) → expr.Admissible →
    ∃ argument, expr.image = some argument ∧ expr.Becomes argument
  | .element inner, admissible => by
    cases admissible with
    | chain chain => cases chain
    | element admissible =>
      exact ⟨.create inner.image, by rw [Expr.image], .element (inner.becomes_image admissible)⟩
  | .identifier .., admissible | .literal _, admissible | .member .., admissible
  | .call _, admissible | .binary .., admissible | .unary .., admissible
  | .conditional _, admissible | .assignment _, admissible | .arrow _, admissible
  | .template _, admissible | .unsupported .., admissible =>
    Expr.becomes_of_not_element _ rfl admissible

theorem Attribute.becomes_image : (item : Attribute) → item.Admissible →
    ∃ property, item.image = some property ∧ item.Becomes property
  | .named name .absent span, _ =>
    ⟨_, by rw [Attribute.image, AttributeValue.image]; rfl, .named (Key.ofName_spells name) .absent span⟩
  | .named name (.text value place) span, _ =>
    ⟨_, by rw [Attribute.image, AttributeValue.image]; rfl,
      .named (Key.ofName_spells name) (.text value place) span⟩
  | .named name (.expression expr) span, admissible => by
    cases admissible with
    | expression _ admissible _ =>
      obtain ⟨argument, same, becomes⟩ := expr.becomes_image admissible
      refine ⟨⟨Key.ofName name, argument⟩, ?_, .named (Key.ofName_spells name) (.expression becomes) span⟩
      rw [Attribute.image, AttributeValue.image, same, Option.map_some]
  | .named _ (.empty _) _, admissible => by cases admissible
  | .spread _, admissible => by cases admissible

private theorem attributes_become : (attributes : List Attribute) → (∀ item ∈ attributes, item.Admissible) →
    List.Forall₂ Attribute.Becomes attributes (imagesOfAttributes attributes)
  | [], _ => by
    rw [imagesOfAttributes]
    exact .nil
  | item :: rest, admissible => by
    obtain ⟨first, others⟩ := List.forall_mem_cons.mp admissible
    obtain ⟨property, same, becomes⟩ := item.becomes_image first
    simp only [imagesOfAttributes, same]
    exact .cons becomes (attributes_become rest others)

theorem Child.becomes_image : (child : Child) → child.Admissible → child.Content →
    ∃ argument, child.image = some argument ∧ child.Becomes argument
  | .text value span, _, content => by
    rw [Child.content_text_iff] at content
    exact ⟨.string value, by rw [Child.image, content]; rfl, .text value span⟩
  | .element inner, admissible, _ => by
    cases admissible with
    | element admissible =>
      exact ⟨.create inner.image, by rw [Child.image], .element (inner.becomes_image admissible)⟩
  | .expression expr, admissible, _ => by
    cases admissible with
    | expression admissible =>
      obtain ⟨argument, same, becomes⟩ := expr.becomes_image admissible
      exact ⟨argument, by rw [Child.image, same], .expression becomes⟩
  | .empty _, _, content => content.elim
  | .unsupported .., admissible, _ => by cases admissible

private theorem children_become : (children : List Child) → (∀ child ∈ children, child.Admissible) →
    List.Forall₂ Child.Becomes (children.filter Child.Content) (imagesOfChildren children)
  | [], _ => by
    rw [imagesOfChildren]
    exact .nil
  | child :: rest, admissible => by
    obtain ⟨first, others⟩ := List.forall_mem_cons.mp admissible
    have later := children_become rest others
    by_cases content : child.Content
    · obtain ⟨argument, same, becomes⟩ := child.becomes_image first content
      simp only [imagesOfChildren, same]
      rw [List.filter_cons_of_pos (by simpa using content)]
      exact .cons becomes later
    · simp only [imagesOfChildren, child.image_of_not_content content]
      rwa [List.filter_cons_of_neg (by simpa using content)]

end

theorem Declarator.becomes_image (declarator : Declarator) (admissible : declarator.Admissible) :
    ∃ image, declarator.image = some image ∧ declarator.Becomes image := by
  cases admissible with
  | bare name place span => exact ⟨(name, none), rfl, .bare name place span⟩
  | @initialized name place expr admissible span =>
    obtain ⟨argument, same, becomes⟩ := expr.becomes_image admissible
    refine ⟨(name, some argument), ?_, .initialized name becomes place span⟩
    simp only [Declarator.image, Option.bind_some, same]
    rfl

private theorem declarators_become (declarators : List Declarator)
    (admissible : ∀ declarator ∈ declarators, declarator.Admissible) :
    List.Forall₂ Declarator.Becomes declarators (declarators.filterMap Declarator.image) := by
  induction declarators with
  | nil => exact .nil
  | cons declarator rest ih =>
    obtain ⟨first, others⟩ := List.forall_mem_cons.mp admissible
    obtain ⟨image, same, becomes⟩ := declarator.becomes_image first
    rw [List.filterMap_cons_some same]
    exact .cons becomes (ih others)

theorem Statement.becomes_image (statement : Statement) (admissible : statement.Admissible)
    (nonempty : statement.isEmpty = false) :
    ∃ image, statement.image = some image ∧ statement.Becomes image := by
  cases admissible with
  | empty span => cases nonempty
  | @expression expr admissible span =>
    obtain ⟨argument, same, becomes⟩ := expr.becomes_image admissible
    exact ⟨.expression argument, by rw [Statement.image, same]; rfl, .expression becomes span⟩
  | @declaration decl admissible =>
    exact ⟨_, rfl, .declaration (declarators_become decl.declarators admissible)⟩

private theorem statements_become (statements : List Statement)
    (admissible : ∀ statement ∈ statements, statement.Admissible) :
    List.Forall₂ Statement.Becomes (statements.filter (!·.isEmpty))
      (statements.filterMap Statement.image) := by
  induction statements with
  | nil => exact .nil
  | cons statement rest ih =>
    obtain ⟨first, others⟩ := List.forall_mem_cons.mp admissible
    have later := ih others
    cases nonempty : statement.isEmpty with
    | false =>
      obtain ⟨image, same, becomes⟩ := statement.becomes_image first nonempty
      rw [List.filter_cons_of_pos (by simp [nonempty]), List.filterMap_cons_some same]
      exact .cons becomes later
    | true =>
      cases statement with
      | empty span => exact later
      | moduleItem kind span => cases nonempty
      | expression expr span => cases nonempty
      | declaration decl => cases nonempty
      | unsupported kind span => cases nonempty

/-- Whatever compiles is translated faithfully: the code is the image of the
template, statement by statement and node by node. -/
theorem Program.compiled_becomes (program : Program) (mode : Mode) (output : Output.Program)
    (compiled : (program.compile mode).1 = .ok output) : program.Becomes output := by
  obtain ⟨accepted, rfl⟩ := (program.compile_eq_ok_iff mode output).mp compiled
  exact statements_become program.body (program.violations_eq_nil_iff.mp accepted)

theorem Program.compiled_becomes_nested :
    let program : Program := ⟨[.empty {}, .expression (.element ⟨"p", [.named "hidden" .absent {}],
      [.text "\n" {}, .expression (.element ⟨"br", [], [], true, {}⟩), .text "or" {}], false, {}⟩) {}], {}⟩
    let output : Output.Program := ⟨[.expression (.create ⟨"p",
      some [⟨.bare "hidden", .boolean true⟩], [.create ⟨"br", none, [], {}⟩, .string "or"], {}⟩)]⟩
    (program.compile .collect).1 = .ok output ∧ program.Becomes output :=
  ⟨rfl, Program.compiled_becomes _ .collect _ rfl⟩

end Template

end LogicFree
