import LogicFree.Compiler
import LogicFree.Proofs.AdmissibleTemplates
import LogicFree.Proofs.PlacedScripts

/-! The numbers and tags of a template are those of its source, character by character, and
so is every number in its code. A mark at the front of the source is the exception: places
count from behind it, while texts are cut out of the source with the mark. -/

namespace LogicFree

namespace Output
open Template (Literal)

def Reference.literals : Reference → List Literal
  | .identifier _ => []
  | .literal value => [value]
  | .member object _ => object.literals

mutual

def Argument.literals : Argument → List Literal
  | .string _ | .boolean _ => []
  | .reference reference => reference.literals
  | .create call => call.literals

def CreateCall.literals : CreateCall → List Literal
  | ⟨_, attributes, children, _⟩ =>
    literalsOfAttributes attributes ++ literalsOfChildren children

def literalsOfAttributes : Option (List Property) → List Literal
  | none => []
  | some properties => literalsOfProperties properties

def Property.literals : Property → List Literal
  | ⟨_, value⟩ => value.literals

def literalsOfProperties : List Property → List Literal
  | [] => []
  | property :: rest => property.literals ++ literalsOfProperties rest

def literalsOfChildren : List Argument → List Literal
  | [] => []
  | child :: rest => child.literals ++ literalsOfChildren rest

end

def Statement.literals : Statement → List Literal
  | .expression argument => argument.literals
  | .declaration _ declarators =>
    declarators.flatMap fun declarator => (declarator.2.map Argument.literals).getD []

/-- The literals that the code of a file reads, as they are printed. -/
def Program.literals (program : Program) : List Literal :=
  program.body.flatMap Statement.literals

end Output

namespace Template
open Output (Reference Argument)

/-- A chain reads no literal, so a literal in a read is the whole of it. -/
theorem Expr.check_literals {expr : Expr} {reference : Reference}
    (accepted : expr.check = .ok reference) :
    ∀ value ∈ reference.literals, .literal value ∈ expr.nodes := by
  obtain ⟨value, rfl, rfl⟩ | chain := (expr.check_eq_ok_iff reference).mp accepted
  · intro other member
    rw [Reference.literals, List.mem_singleton] at member
    rw [member, Expr.nodes, List.mem_singleton]
  · have bare : reference.literals = [] := by
      clear accepted
      induction chain with
      | identifier name span => rfl
      | named chain name place span ih => rw [Reference.literals, ih]
    rw [bare]
    exact nofun

private theorem Expr.image_literals_of_not_element (expr : Expr) (plain : expr.element? = none) :
    ∀ argument ∈ expr.image, ∀ value ∈ argument.literals, .literal value ∈ expr.nodes := by
  intro argument image
  rw [expr.image_of_not_element plain] at image
  obtain ⟨reference, accepted, rfl⟩ := Option.map_eq_some_iff.mp image
  rw [Argument.literals]
  apply Expr.check_literals
  cases checked : expr.check with
  | error violation =>
    rw [checked] at accepted
    cases accepted
  | ok other =>
    rw [checked] at accepted
    cases accepted
    rfl

mutual

private theorem Element.image_literals : (element : Element) →
    ∀ value ∈ element.image.literals, .literal value ∈ element.nodes
  | ⟨name, attributes, children, selfClosing, span⟩ => by
    intro value member
    rw [Element.image, Output.CreateCall.literals, List.mem_append] at member
    rw [Element.nodes, List.mem_cons, List.mem_append]
    obtain inAttributes | inChildren := member
    · refine .inr (.inl (attributes_image_literals attributes value ?_))
      split at inAttributes
      · cases inAttributes
      · exact inAttributes
    · exact .inr (.inr (children_image_literals children value inChildren))

private theorem Expr.image_literals : (expr : Expr) →
    ∀ argument ∈ expr.image, ∀ value ∈ argument.literals, .literal value ∈ expr.nodes
  | .element inner => by
    rw [Expr.image, Expr.nodes]
    rintro _ ⟨⟩ value member
    rw [Argument.literals] at member
    exact inner.image_literals value member
  | .identifier .. | .literal _ | .member .. | .call _ | .binary .. | .unary .. | .conditional _
  | .assignment _ | .arrow _ | .template _ | .unsupported .. =>
    Expr.image_literals_of_not_element _ rfl

private theorem AttributeValue.image_literals : (value : AttributeValue) →
    ∀ argument ∈ value.image, ∀ literal ∈ argument.literals, .literal literal ∈ value.nodes
  | .expression expr => by
    rw [AttributeValue.image, AttributeValue.nodes]
    exact expr.image_literals
  | .absent | .text .. | .empty _ => by simp [AttributeValue.image, Argument.literals]

private theorem attributes_image_literals : (attributes : List Attribute) →
    ∀ value ∈ Output.literalsOfProperties (imagesOfAttributes attributes),
      .literal value ∈ nodesOfAttributes attributes
  | [] => by simp [imagesOfAttributes, Output.literalsOfProperties]
  | .spread span :: rest => by
    rw [imagesOfAttributes, Attribute.image, nodesOfAttributes, Attribute.nodes, List.nil_append]
    exact attributes_image_literals rest
  | .named name value span :: rest => by
    rw [imagesOfAttributes, Attribute.image, nodesOfAttributes, Attribute.nodes]
    have inside := value.image_literals
    have others := attributes_image_literals rest
    intro literal member
    rw [List.mem_append]
    cases image : value.image with
    | none =>
      rw [image] at member
      exact .inr (others literal member)
    | some argument =>
      rw [image, Option.map_some] at member
      dsimp only at member
      rw [Output.literalsOfProperties, Output.Property.literals, List.mem_append] at member
      exact member.imp (inside argument image literal) (others literal)

private theorem Child.image_literals : (child : Child) →
    ∀ argument ∈ child.image, ∀ value ∈ argument.literals, .literal value ∈ child.nodes
  | .element inner => by
    rw [Child.image, Child.nodes]
    rintro _ ⟨⟩ value member
    rw [Argument.literals] at member
    exact inner.image_literals value member
  | .expression expr => by
    rw [Child.image, Child.nodes]
    exact expr.image_literals
  | .text .. | .empty _ | .unsupported .. => by simp [Child.image, Argument.literals]

private theorem children_image_literals : (children : List Child) →
    ∀ value ∈ Output.literalsOfChildren (imagesOfChildren children),
      .literal value ∈ nodesOfChildren children
  | [] => by simp [imagesOfChildren, Output.literalsOfChildren]
  | child :: rest => by
    rw [imagesOfChildren, nodesOfChildren]
    have inside := child.image_literals
    have others := children_image_literals rest
    intro literal member
    rw [List.mem_append]
    cases image : child.image with
    | none =>
      rw [image] at member
      exact .inr (others literal member)
    | some argument =>
      rw [image] at member
      dsimp only at member
      rw [Output.literalsOfChildren, List.mem_append] at member
      exact member.imp (inside argument image literal) (others literal)

end

private theorem Statement.image_literals (statement : Statement) :
    ∀ output ∈ statement.image, ∀ value ∈ output.literals, .literal value ∈ statement.nodes := by
  cases statement with
  | moduleItem kind span | empty span | unsupported kind span => exact nofun
  | expression expr span =>
    intro output image value member
    obtain ⟨argument, found, rfl⟩ := Option.map_eq_some_iff.mp image
    simpa [nodes, sites] using expr.image_literals argument found value member
  | declaration decl =>
    rintro _ ⟨⟩ value member
    obtain ⟨⟨name, init⟩, listed, inside⟩ := List.mem_flatMap.mp member
    obtain ⟨declarator, declared, image⟩ := List.mem_filterMap.mp listed
    obtain ⟨_, -, same⟩ := Option.map_eq_some_iff.mp image
    cases same
    obtain ⟨binding, init, span⟩ := declarator
    cases init with
    | none => cases inside
    | some expr =>
      have among : expr ∈ (Statement.declaration decl).sites :=
        List.mem_filterMap.mpr ⟨_, declared, rfl⟩
      refine List.mem_flatMap.mpr ⟨expr, among, ?_⟩
      cases found : expr.image with
      | none =>
        rw [Option.bind_some, found] at inside
        cases inside
      | some argument =>
        rw [Option.bind_some, found] at inside
        exact expr.image_literals argument found value inside

/-- The code of a template reads no literal that the template does not hold. -/
theorem Program.image_literals (program : Program) :
    ∀ value ∈ program.image.literals, .literal value ∈ program.nodes := by
  intro value member
  obtain ⟨output, listed, inside⟩ := List.mem_flatMap.mp member
  obtain ⟨statement, written, image⟩ := List.mem_filterMap.mp listed
  exact List.mem_flatMap.mpr ⟨statement, written, statement.image_literals output image value inside⟩

end Template

namespace Script
open Template (Node nodesOfAttributes nodesOfChildren)

variable {source : List Char}

/-- What is cut out at the place of a number is its literal, which is read the same on its own. -/
theorem NumberStands.numberAt {span : Span} {bits : UInt64} (stands : NumberStands source span bits) :
    NumberAt source span bits (slice (String.ofList source) span).toList := by
  obtain ⟨place, raw, rest, start, stop, whole, read⟩ := stands
  obtain ⟨other, split, alone⟩ := NumberLiteral.read?_alone read
  obtain rfl : raw = other := List.append_cancel_right (whole.symm.trans split)
  have text : slice (String.ofList source) span = String.ofList raw := by
    rw [← place.slice_eq whole, start, ← stop]
  rw [text, String.toList_ofList]
  exact ⟨place, rest, start, stop, whole, read, alone⟩

/-- The name that an element gets is the one that is written behind its bracket. -/
theorem TagName.PlacedAt.tagAt {start : Nat} {tag : TagName} (placed : tag.PlacedAt source start) :
    TagAt source start (tag.toTemplate (String.ofList source)) := by
  obtain ⟨opening, rest, starts, bracket, stands, ends⟩ := placed
  refine ⟨opening, rest, starts, bracket, ?_, ends⟩
  cases tag with
  | plain name span => exact .plain stands
  | namespaced space name span =>
    obtain ⟨middle, first, colon, second⟩ := stands
    exact .namespaced first colon second
  | dotted parts span =>
    obtain ⟨words, several, rfl⟩ := stands
    obtain ⟨written, whole, moved⟩ := words.ahead
    have behind := (opening.drop_ahead 1).trans (opening.drop 1).trimmed_ahead
    have cut : slice (String.ofList source) ⟨(opening.drop 1).trimmed.pos, rest.pos⟩ =
        String.ofList written := by
      rw [moved]
      exact (opening.reach _ behind).slice_eq whole
    rw [TagName.toTemplate, cut]
    exact .dotted words several whole

private theorem ExprForm.toTemplate_nodes (form : ExprForm) (span : Span) :
    (form.toTemplate span).nodes = [] := by
  cases form <;> rw [ExprForm.toTemplate, Template.Expr.nodes]

mutual

theorem Expr.Placed.nodes : {expr : Expr} → expr.Placed source →
    ∀ node ∈ (expr.toTemplate (String.ofList source)).nodes, node.SpelledIn source
  | .number bits span, placed => by
    rw [Expr.Placed] at placed
    simpa [Expr.toTemplate, Template.Expr.nodes, Node.SpelledIn] using placed.numberAt
  | .paren inner _, placed => by
    rw [Expr.Placed] at placed
    rw [Expr.toTemplate]
    exact placed.nodes
  | .member object property _, placed => by
    rw [Expr.Placed] at placed
    rw [Expr.toTemplate, Template.Expr.nodes, List.forall_mem_append]
    exact ⟨placed.1.nodes, placed.2.nodes⟩
  | .element inner, placed => by
    rw [Expr.Placed] at placed
    rw [Expr.toTemplate, Template.Expr.nodes]
    exact placed.nodes
  | .string none _, _ | .identifier .., _ | .binary .., _ | .unary .., _ => by
    simp [Expr.toTemplate, Template.Expr.nodes]
  | .string (some _) _, _ | .boolean .., _ => by
    simp [Expr.toTemplate, Template.Expr.nodes, Node.SpelledIn]
  | .other form span, _ => by
    simp [Expr.toTemplate, form.toTemplate_nodes]

theorem Property.Placed.nodes : {property : Property} → property.Placed source →
    ∀ node ∈ (property.toTemplate (String.ofList source)).nodes, node.SpelledIn source
  | .computed index, placed => by
    rw [Property.Placed] at placed
    rw [Property.toTemplate, Template.Property.nodes]
    exact placed.nodes
  | .named .., _ | .hidden _, _ => by simp [Property.toTemplate, Template.Property.nodes]

theorem Element.Placed.nodes : {element : Element} → element.Placed source →
    ∀ node ∈ (element.toTemplate (String.ofList source)).nodes, node.SpelledIn source
  | ⟨name, attributes, children, selfClosing, span⟩, placed => by
    rw [Element.Placed] at placed
    obtain ⟨tag, items, parts⟩ := placed
    rw [Element.toTemplate, Template.Element.nodes, List.forall_mem_cons, List.forall_mem_append]
    exact ⟨tag.tagAt, attributesPlaced_nodes items, childrenPlaced_nodes parts⟩

theorem AttributeValue.Placed.nodes : {value : AttributeValue} → value.Placed source →
    ∀ node ∈ (value.toTemplate (String.ofList source)).nodes, node.SpelledIn source
  | .expression expr, placed => by
    rw [AttributeValue.Placed] at placed
    rw [AttributeValue.toTemplate, Template.AttributeValue.nodes]
    exact placed.nodes
  | .element inner, placed => by
    rw [AttributeValue.Placed] at placed
    rw [AttributeValue.toTemplate, Template.AttributeValue.nodes, Template.Expr.nodes]
    exact placed.nodes
  | .absent, _ | .string none _, _ | .string (some _) _, _ | .empty _, _ | .fragment _, _ => by
    simp [AttributeValue.toTemplate, Template.AttributeValue.nodes, Template.Expr.nodes]

private theorem attributesPlaced_nodes : {attributes : List Attribute} →
    attributesPlaced source attributes →
    ∀ node ∈ nodesOfAttributes (attributesToTemplate (String.ofList source) attributes),
      node.SpelledIn source
  | [], _ => by simp [attributesToTemplate, nodesOfAttributes]
  | .named name value span :: rest, placed => by
    rw [attributesPlaced, Attribute.Placed] at placed
    rw [attributesToTemplate, nodesOfAttributes, Template.Attribute.nodes, List.forall_mem_append]
    exact ⟨placed.1.nodes, attributesPlaced_nodes placed.2⟩
  | .spread span :: rest, placed => by
    rw [attributesPlaced] at placed
    rw [attributesToTemplate, nodesOfAttributes, Template.Attribute.nodes, List.nil_append]
    exact attributesPlaced_nodes placed.2

theorem Child.Placed.nodes : {child : Child} → child.Placed source →
    ∀ node ∈ (child.toTemplate (String.ofList source)).nodes, node.SpelledIn source
  | .expression expr, placed => by
    rw [Child.Placed] at placed
    rw [Child.toTemplate, Template.Child.nodes]
    exact placed.nodes
  | .element inner, placed => by
    rw [Child.Placed] at placed
    rw [Child.toTemplate, Template.Child.nodes]
    exact placed.nodes
  | .text .., _ | .empty _, _ | .fragment _, _ | .spread _, _ => by
    simp [Child.toTemplate, Template.Child.nodes]

private theorem childrenPlaced_nodes : {children : List Child} → childrenPlaced source children →
    ∀ node ∈ nodesOfChildren (childrenToTemplate (String.ofList source) children),
      node.SpelledIn source
  | [], _ => by simp [childrenToTemplate, nodesOfChildren]
  | child :: rest, placed => by
    rw [childrenPlaced] at placed
    rw [childrenToTemplate, nodesOfChildren, List.forall_mem_append]
    exact ⟨placed.1.nodes, childrenPlaced_nodes placed.2⟩

end

theorem Statement.Placed.nodes {statement : Statement} (placed : statement.Placed source) :
    ∀ node ∈ (statement.toTemplate (String.ofList source)).nodes, node.SpelledIn source := by
  cases statement with
  | expression expr span =>
    simp only [Statement.toTemplate, Template.Statement.nodes, Template.Statement.sites,
      List.flatMap_cons, List.flatMap_nil, List.append_nil]
    exact Expr.Placed.nodes placed
  | declaration ambient kind declarators span =>
    intro node member
    simp only [Statement.toTemplate, Template.Statement.nodes, Template.Statement.sites,
      List.mem_flatMap, List.mem_filterMap, List.mem_map] at member
    obtain ⟨expr, ⟨_, ⟨declarator, listed, rfl⟩, init⟩, member⟩ := member
    obtain ⟨inner, found, rfl⟩ := Option.map_eq_some_iff.mp init
    exact (placed declarator listed inner found).nodes node member
  | moduleItem form span | empty span | other form span =>
    simp [Statement.toTemplate, Template.Statement.nodes, Template.Statement.sites]

end Script

end LogicFree
