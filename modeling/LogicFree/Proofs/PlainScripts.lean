import LogicFree.Proofs.AdmissibleTemplates
import LogicFree.Script.ToTemplate

/-! Which script files are templates. Reading a script as a template drops parentheses
and gives every shape that it does not name to the policy. What compiles in the end is
a short list of shapes, said here on the script itself after its parentheses have been
taken away. -/

namespace LogicFree.Script
open Output (Reference)

mutual

def Expr.bare : Expr → Expr
  | .paren inner _ => inner.bare
  | .member object property span => .member object.bare property.bare span
  | .element inner => .element inner.bare
  | .identifier name span => .identifier name span
  | .string value span => .string value span
  | .number bits span => .number bits span
  | .boolean value span => .boolean value span
  | .binary operator span => .binary operator span
  | .unary operator span => .unary operator span
  | .other form span => .other form span

def Property.bare : Property → Property
  | .computed index => .computed index.bare
  | .named name span => .named name span
  | .hidden span => .hidden span

def Element.bare : Element → Element
  | ⟨name, attributes, children, selfClosing, span⟩ =>
    ⟨name, bareAttributes attributes, bareChildren children, selfClosing, span⟩

def Attribute.bare : Attribute → Attribute
  | .named name value span => .named name value.bare span
  | .spread span => .spread span

def AttributeValue.bare : AttributeValue → AttributeValue
  | .expression expr => .expression expr.bare
  | .element inner => .element inner.bare
  | .absent => .absent
  | .string value span => .string value span
  | .empty span => .empty span
  | .fragment span => .fragment span

def bareAttributes : List Attribute → List Attribute
  | [] => []
  | item :: rest => item.bare :: bareAttributes rest

def Child.bare : Child → Child
  | .expression expr => .expression expr.bare
  | .element inner => .element inner.bare
  | .text value span => .text value span
  | .empty span => .empty span
  | .fragment span => .fragment span
  | .spread span => .spread span

def bareChildren : List Child → List Child
  | [] => []
  | child :: rest => child.bare :: bareChildren rest

end

def Declarator.bare (declarator : Declarator) : Declarator :=
  { declarator with init := declarator.init.map Expr.bare }

def Statement.bare : Statement → Statement
  | .expression expr span => .expression expr.bare span
  | .declaration ambient kind declarators span =>
    .declaration ambient kind (declarators.map Declarator.bare) span
  | .moduleItem form span => .moduleItem form span
  | .empty span => .empty span
  | .other form span => .other form span

/-- A script without its parentheses, at every level. -/
def Program.bare (program : Program) : Program :=
  { program with body := program.body.map Statement.bare }

/-- An identifier followed by named reads. An optional read is a shape of its own, and
so is everything else that could stand in a chain. -/
inductive Expr.Chain : Expr → Reference → Prop where
  | identifier (name : String) (span : Span) : Chain (.identifier name span) (.identifier name)
  | named {object : Expr} {reference : Reference} (chain : object.Chain reference)
      (name : String) (place span : Span) :
      Chain (.member object (.named name place) span) (.member reference name)

/-- The data that an expression reads: a text without half a surrogate pair, a number
with its spelling, a boolean, or a chain. -/
inductive Expr.Reads (source : String) : Expr → Reference → Prop where
  | string (value : String) (span : Span) :
      Reads source (.string (some value) span) (.literal (.string value span))
  | number (bits : UInt64) (span : Span) :
      Reads source (.number bits span) (.literal (.number bits (slice source span) span))
  | boolean (value : Bool) (span : Span) :
      Reads source (.boolean value span) (.literal (.boolean value span))
  | chain {expr : Expr} {reference : Reference} (chain : expr.Chain reference) :
      Reads source expr reference

mutual

inductive Expr.Plain : Expr → Prop where
  | string (value : String) (span : Span) : Expr.Plain (.string (some value) span)
  | number (bits : UInt64) (span : Span) : Expr.Plain (.number bits span)
  | boolean (value : Bool) (span : Span) : Expr.Plain (.boolean value span)
  | chain {expr : Expr} {reference : Reference} (chain : expr.Chain reference) : Expr.Plain expr
  | element {inner : Element} (plain : Element.Plain inner) : Expr.Plain (.element inner)

inductive Element.Plain : Element → Prop where
  | intro {element : Element}
      (attributes : ∀ item ∈ element.attributes, Attribute.Plain item)
      (children : ∀ child ∈ element.children, Child.Plain child) :
      Element.Plain element

inductive Attribute.Plain : Attribute → Prop where
  | absent (name : AttributeName) (span : Span) : Attribute.Plain (.named name .absent span)
  | string (name : AttributeName) (value : String) (place span : Span) :
      Attribute.Plain (.named name (.string (some value) place) span)
  | expression (name : AttributeName) {expr : Expr} (plain : Expr.Plain expr) (span : Span) :
      Attribute.Plain (.named name (.expression expr) span)
  | element (name : AttributeName) {inner : Element} (plain : Element.Plain inner) (span : Span) :
      Attribute.Plain (.named name (.element inner) span)

inductive Child.Plain : Child → Prop where
  | text (value : String) (span : Span) : Child.Plain (.text value span)
  | empty (span : Span) : Child.Plain (.empty span)
  | expression {expr : Expr} (plain : Expr.Plain expr) : Child.Plain (.expression expr)
  | element {inner : Element} (plain : Element.Plain inner) : Child.Plain (.element inner)

end

inductive Declarator.Plain : Declarator → Prop where
  | uninitialized (name : String) (place span : Span) :
      Declarator.Plain ⟨.identifier name place, none, span⟩
  | initialized (name : String) (place : Span) {expr : Expr} (plain : expr.Plain) (span : Span) :
      Declarator.Plain ⟨.identifier name place, some expr, span⟩

/-- Expression statements, `var`, `let` and `const` declarations and empty statements. -/
inductive Statement.Plain : Statement → Prop where
  | expression {expr : Expr} (plain : expr.Plain) (span : Span) :
      Statement.Plain (.expression expr span)
  | declaration (ambient : Bool) (kind : Template.VariableKind) {declarators : List Declarator}
      (plain : ∀ declarator ∈ declarators, declarator.Plain) (span : Span) :
      Statement.Plain (.declaration ambient kind declarators span)
  | empty (span : Span) : Statement.Plain (.empty span)

def Program.Plain (program : Program) : Prop := ∀ statement ∈ program.body, statement.Plain

variable (source : String)

/-- None of the other forms is read as a literal, an identifier, a member or an element. -/
theorem ExprForm.not_admissible (form : ExprForm) (span : Span) : ¬ (form.toTemplate span).Admissible := by
  intro admissible
  cases form
  all_goals
    cases admissible with
    | chain chain => cases chain

private theorem Expr.chain_iff (reference : Reference) : (expr : Expr) →
    ((expr.toTemplate source).Chain reference ↔ expr.bare.Chain reference)
  | .paren inner _ => by
    rw [Expr.toTemplate, Expr.bare]
    exact Expr.chain_iff reference inner
  | .identifier name span => by
    rw [Expr.toTemplate, Expr.bare]
    constructor
    · rintro ⟨⟩
      exact .identifier name span
    · rintro ⟨⟩
      exact .identifier name span
  | .member object (.named name place) span => by
    rw [Expr.toTemplate, Property.toTemplate, Expr.bare, Property.bare]
    constructor
    · intro chain
      cases chain with
      | named chain => exact .named ((Expr.chain_iff _ object).mp chain) name place span
    · intro chain
      cases chain with
      | named chain => exact .named ((Expr.chain_iff _ object).mpr chain) name place span
  | .member object (.computed index) span => by
    rw [Expr.toTemplate, Property.toTemplate, Expr.bare, Property.bare]
    exact ⟨nofun, nofun⟩
  | .member object (.hidden place) span => by
    rw [Expr.toTemplate, Property.toTemplate, Expr.bare, Property.bare]
    exact ⟨nofun, nofun⟩
  | .other form span => by
    rw [Expr.toTemplate, Expr.bare]
    exact ⟨fun chain => (form.not_admissible span (.chain chain)).elim, nofun⟩
  | .string none _ | .string (some _) _ | .number .. | .boolean .. | .binary .. | .unary ..
  | .element _ => by
    rw [Expr.toTemplate, Expr.bare]
    exact ⟨nofun, nofun⟩

private theorem Expr.Reads.literal_or_chain {source : String} {expr : Expr} {reference : Reference}
    (reads : expr.Reads source reference) :
    (∃ value, reference = .literal value) ∨ expr.Chain reference := by
  cases reads with
  | string value span => exact .inl ⟨_, rfl⟩
  | number bits span => exact .inl ⟨_, rfl⟩
  | boolean value span => exact .inl ⟨_, rfl⟩
  | chain chain => exact .inr chain

private theorem Expr.Chain.ne_literal {expr : Expr} {reference : Reference} (chain : expr.Chain reference)
    (value : Template.Literal) : reference ≠ .literal value := by
  cases chain <;> nofun

private theorem Expr.literal_iff (value : Template.Literal) : (expr : Expr) →
    (expr.toTemplate source = .literal value ↔ expr.bare.Reads source (.literal value))
  | .paren inner _ => by
    rw [Expr.toTemplate, Expr.bare]
    exact Expr.literal_iff value inner
  | .string (some text) span => by
    rw [Expr.toTemplate, Expr.bare]
    constructor
    · rintro ⟨⟩
      exact .string text span
    · intro reads
      cases reads with
      | string => rfl
      | chain chain => exact absurd rfl (chain.ne_literal _)
  | .number bits span => by
    rw [Expr.toTemplate, Expr.bare]
    constructor
    · rintro ⟨⟩
      exact .number bits span
    · intro reads
      cases reads with
      | number => rfl
      | chain chain => exact absurd rfl (chain.ne_literal _)
  | .boolean flag span => by
    rw [Expr.toTemplate, Expr.bare]
    constructor
    · rintro ⟨⟩
      exact .boolean flag span
    · intro reads
      cases reads with
      | boolean => rfl
      | chain chain => exact absurd rfl (chain.ne_literal _)
  | .other form span => by
    rw [Expr.toTemplate, Expr.bare]
    constructor
    · intro literal
      exact (form.not_admissible span (literal ▸ .literal value)).elim
    · intro reads
      cases reads with
      | chain chain => exact absurd rfl (chain.ne_literal _)
  | .string none _ | .identifier .. | .member .. | .binary .. | .unary .. | .element _ => by
    rw [Expr.toTemplate, Expr.bare]
    refine ⟨nofun, ?_⟩
    intro reads
    cases reads with
    | chain chain => exact absurd rfl (chain.ne_literal _)

/-- The policy reads an expression as what it is without its parentheses. -/
theorem Expr.check_iff (expr : Expr) (reference : Reference) :
    (expr.toTemplate source).check = .ok reference ↔ expr.bare.Reads source reference := by
  rw [Template.Expr.check_eq_ok_iff]
  constructor
  · rintro (⟨value, literal, rfl⟩ | chain)
    · exact (Expr.literal_iff source value expr).mp literal
    · exact .chain ((Expr.chain_iff source reference expr).mp chain)
  · intro reads
    rcases reads.literal_or_chain with ⟨value, rfl⟩ | chain
    · exact .inl ⟨value, (Expr.literal_iff source value expr).mpr reads, rfl⟩
    · exact .inr ((Expr.chain_iff source reference expr).mpr chain)

private theorem ExprForm.element?_toTemplate (form : ExprForm) (span : Span) :
    (form.toTemplate span).element? = none := by
  cases form <;> rfl

/-- Apart from elements, what is plain is what can be read. -/
theorem Expr.plain_iff_reads (expr : Expr) (leaf : ∀ inner, expr ≠ .element inner) :
    expr.Plain ↔ ∃ reference, expr.Reads source reference := by
  constructor
  · intro plain
    cases plain with
    | string value span => exact ⟨_, .string value span⟩
    | number bits span => exact ⟨_, .number bits span⟩
    | boolean value span => exact ⟨_, .boolean value span⟩
    | chain chain => exact ⟨_, .chain chain⟩
    | element plain => exact absurd rfl (leaf _)
  · rintro ⟨reference, reads⟩
    cases reads with
    | string value span => exact .string value span
    | number bits span => exact .number bits span
    | boolean value span => exact .boolean value span
    | chain chain => exact .chain chain

private theorem Expr.plain_iff_of_leaf (expr : Expr) (template : (expr.toTemplate source).element? = none)
    (leaf : ∀ inner, expr.bare ≠ .element inner) :
    (expr.toTemplate source).Admissible ↔ expr.bare.Plain := by
  rw [Template.Expr.admissible_iff_check _ template, Expr.plain_iff_reads source _ leaf]
  exact exists_congr fun reference => expr.check_iff source reference

mutual

private theorem Element.plain_iff : (element : Element) →
    ((element.toTemplate source).Admissible ↔ element.bare.Plain)
  | ⟨name, attributes, children, selfClosing, span⟩ => by
    have items := attributes_plain_iff attributes
    have content := children_plain_iff children
    rw [Element.toTemplate, Element.bare]
    constructor
    · rintro ⟨itemsAdmissible, contentAdmissible⟩
      exact .intro (items.mp itemsAdmissible) (content.mp contentAdmissible)
    · rintro ⟨itemsPlain, contentPlain⟩
      exact .intro (items.mpr itemsPlain) (content.mpr contentPlain)

private theorem Expr.plain_iff : (expr : Expr) → ((expr.toTemplate source).Admissible ↔ expr.bare.Plain)
  | .paren inner _ => by
    rw [Expr.toTemplate, Expr.bare]
    exact inner.plain_iff
  | .element inner => by
    have same := inner.plain_iff
    rw [Expr.toTemplate, Expr.bare]
    constructor
    · intro admissible
      cases admissible with
      | element admissible => exact .element (same.mp admissible)
      | chain chain => cases chain
    · intro plain
      cases plain with
      | element plain => exact .element (same.mpr plain)
      | chain chain => cases chain
  | .other form span =>
    Expr.plain_iff_of_leaf source _ (by rw [Expr.toTemplate]; exact form.element?_toTemplate span)
      (by rw [Expr.bare]; nofun)
  | .identifier .. | .string none _ | .string (some _) _ | .number .. | .boolean .. | .member ..
  | .binary .. | .unary .. =>
    Expr.plain_iff_of_leaf source _ (by rw [Expr.toTemplate]; rfl) (by rw [Expr.bare]; nofun)

private theorem Attribute.plain_iff (name : AttributeName) (span : Span) : (value : AttributeValue) →
    ((Template.Attribute.named name.toTemplate (value.toTemplate source) span).Admissible ↔
      (Attribute.named name value.bare span).Plain)
  | .absent => by
    rw [AttributeValue.toTemplate, AttributeValue.bare]
    exact ⟨fun _ => .absent name span, fun _ => .absent _ span⟩
  | .string (some value) place => by
    rw [AttributeValue.toTemplate, AttributeValue.bare]
    exact ⟨fun _ => .string name value place span, fun _ => .text _ value place span⟩
  | .string none place => by
    rw [AttributeValue.toTemplate, AttributeValue.bare]
    refine ⟨?_, nofun⟩
    intro admissible
    cases admissible with
    | expression _ admissible _ =>
      cases admissible with
      | chain chain => cases chain
  | .expression expr => by
    have same := expr.plain_iff
    rw [AttributeValue.toTemplate, AttributeValue.bare]
    constructor
    · intro admissible
      cases admissible with
      | expression _ admissible _ => exact .expression name (same.mp admissible) span
    · intro plain
      cases plain with
      | expression _ plain _ => exact .expression _ (same.mpr plain) span
  | .empty place => by
    rw [AttributeValue.toTemplate, AttributeValue.bare]
    exact ⟨nofun, nofun⟩
  | .element inner => by
    have same := inner.plain_iff
    rw [AttributeValue.toTemplate, AttributeValue.bare]
    constructor
    · intro admissible
      cases admissible with
      | expression _ admissible _ =>
        cases admissible with
        | chain chain => cases chain
        | element admissible => exact .element name (same.mp admissible) span
    · intro plain
      cases plain with
      | element _ plain _ => exact .expression _ (.element (same.mpr plain)) span
  | .fragment place => by
    rw [AttributeValue.toTemplate, AttributeValue.bare]
    refine ⟨?_, nofun⟩
    intro admissible
    cases admissible with
    | expression _ admissible _ =>
      cases admissible with
      | chain chain => cases chain

private theorem attributes_plain_iff : (attributes : List Attribute) →
    ((∀ item ∈ attributesToTemplate source attributes, item.Admissible) ↔
      ∀ item ∈ bareAttributes attributes, item.Plain)
  | [] => by simp [attributesToTemplate, bareAttributes]
  | .named name value span :: rest => by
    rw [attributesToTemplate, bareAttributes, Attribute.bare, List.forall_mem_cons, List.forall_mem_cons,
      Attribute.plain_iff name span value, attributes_plain_iff rest]
  | .spread span :: rest => by
    rw [attributesToTemplate, bareAttributes, Attribute.bare, List.forall_mem_cons, List.forall_mem_cons]
    exact ⟨nofun, nofun⟩

private theorem Child.plain_iff : (child : Child) → ((child.toTemplate source).Admissible ↔ child.bare.Plain)
  | .text value span => by
    rw [Child.toTemplate, Child.bare]
    exact ⟨fun _ => .text value span, fun _ => .text value span⟩
  | .empty span => by
    rw [Child.toTemplate, Child.bare]
    exact ⟨fun _ => .empty span, fun _ => .empty span⟩
  | .fragment span => by
    rw [Child.toTemplate, Child.bare]
    exact ⟨nofun, nofun⟩
  | .spread span => by
    rw [Child.toTemplate, Child.bare]
    exact ⟨nofun, nofun⟩
  | .expression expr => by
    have same := expr.plain_iff
    rw [Child.toTemplate, Child.bare]
    constructor
    · intro admissible
      cases admissible with
      | expression admissible => exact .expression (same.mp admissible)
    · intro plain
      cases plain with
      | expression plain => exact .expression (same.mpr plain)
  | .element inner => by
    have same := inner.plain_iff
    rw [Child.toTemplate, Child.bare]
    constructor
    · intro admissible
      cases admissible with
      | element admissible => exact .element (same.mp admissible)
    · intro plain
      cases plain with
      | element plain => exact .element (same.mpr plain)

private theorem children_plain_iff : (children : List Child) →
    ((∀ child ∈ childrenToTemplate source children, child.Admissible) ↔
      ∀ child ∈ bareChildren children, child.Plain)
  | [] => by simp [childrenToTemplate, bareChildren]
  | child :: rest => by
    rw [childrenToTemplate, bareChildren, List.forall_mem_cons, List.forall_mem_cons, child.plain_iff,
      children_plain_iff rest]

end

private theorem Declarator.plain_iff (declarator : Declarator) :
    (declarator.toTemplate source).Admissible ↔ declarator.bare.Plain := by
  obtain ⟨binding, init, span⟩ := declarator
  cases binding with
  | pattern place => exact ⟨nofun, nofun⟩
  | identifier name place =>
    cases init with
    | none => exact ⟨fun _ => .uninitialized name place span, fun _ => .bare name place span⟩
    | some expr =>
      have same := expr.plain_iff source
      constructor
      · intro admissible
        cases admissible with
        | initialized _ _ admissible _ => exact .initialized name place (same.mp admissible) span
      · intro plain
        cases plain with
        | initialized _ _ plain _ => exact .initialized name place (same.mpr plain) span

private theorem Statement.plain_iff (statement : Statement) :
    (statement.toTemplate source).Admissible ↔ statement.bare.Plain := by
  cases statement with
  | moduleItem form span => exact ⟨nofun, nofun⟩
  | other form span => exact ⟨nofun, nofun⟩
  | empty span => exact ⟨fun _ => .empty span, fun _ => .empty span⟩
  | expression expr span =>
    have same := expr.plain_iff source
    constructor
    · intro admissible
      cases admissible with
      | expression admissible _ => exact .expression (same.mp admissible) span
    · intro plain
      cases plain with
      | expression plain _ => exact .expression (same.mpr plain) span
  | declaration ambient kind declarators span =>
    have same : (∀ declarator ∈ declarators.map (·.toTemplate source), declarator.Admissible) ↔
        ∀ declarator ∈ declarators.map Declarator.bare, declarator.Plain := by
      simp only [List.forall_mem_map, Declarator.plain_iff]
    constructor
    · intro admissible
      cases admissible with
      | declaration admissible => exact .declaration ambient kind (same.mp admissible) span
    · intro plain
      cases plain with
      | declaration _ _ plain _ => exact .declaration (same.mpr plain)

private theorem Program.plain_iff (program : Program) :
    (program.toTemplate source).Admissible ↔ program.bare.Plain := by
  simp only [Template.Program.Admissible, Program.toTemplate, Program.Plain, Program.bare,
    List.forall_mem_map, Statement.plain_iff]

/-- Nothing gets through by default. A script compiles, in either mode, exactly if it is
plain without its parentheses, and an expression passes the policy exactly if it reads
data, with the same names in the reference that it becomes. -/
theorem compiles_iff_plain (source : String) :
    (∀ (program : Program) (mode : Mode),
      (∃ output, ((program.toTemplate source).compile mode).1 = .ok output) ↔ program.bare.Plain) ∧
    ∀ (expr : Expr) (reference : Reference),
      (expr.toTemplate source).check = .ok reference ↔ expr.bare.Reads source reference := by
  refine ⟨?_, fun expr reference => expr.check_iff source reference⟩
  intro program mode
  rw [Template.Program.compile_ok_iff, Template.Program.violations_eq_nil_iff, program.plain_iff source]

end LogicFree.Script
