import LogicFree.Proofs.ErrorModes

/-! The language of logic-free templates, said without the compiler, and the proof
that the compiler accepts this language and nothing else. -/

namespace LogicFree.Template
open Output (Reference)

/-- An identifier followed by named property reads, and the reference that it is. -/
inductive Expr.Chain : Expr → Reference → Prop where
  | identifier (name : String) (span : Span) : Chain (.identifier name span) (.identifier name)
  | named {object : Expr} {reference : Reference} (chain : object.Chain reference)
      (name : String) (place span : Span) :
      Chain (.member object (.named name place) span) (.member reference name)

mutual

inductive Expr.Admissible : Expr → Prop where
  | literal (value : Literal) : Expr.Admissible (.literal value)
  | chain {expr : Expr} {reference : Reference} (chain : expr.Chain reference) :
      Expr.Admissible expr
  | element {inner : Element} (admissible : Element.Admissible inner) :
      Expr.Admissible (.element inner)

inductive Element.Admissible : Element → Prop where
  | intro {element : Element}
      (attributes : ∀ item ∈ element.attributes, Attribute.Admissible item)
      (children : ∀ child ∈ element.children, Child.Admissible child) :
      Element.Admissible element

/-- Neither a spread nor an attribute with an empty value is admissible. -/
inductive Attribute.Admissible : Attribute → Prop where
  | absent (name : String) (span : Span) : Attribute.Admissible (.named name .absent span)
  | text (name value : String) (place span : Span) :
      Attribute.Admissible (.named name (.text value place) span)
  | expression (name : String) {expr : Expr} (admissible : Expr.Admissible expr) (span : Span) :
      Attribute.Admissible (.named name (.expression expr) span)

inductive Child.Admissible : Child → Prop where
  | text (value : String) (span : Span) : Child.Admissible (.text value span)
  | empty (span : Span) : Child.Admissible (.empty span)
  | element {inner : Element} (admissible : Element.Admissible inner) :
      Child.Admissible (.element inner)
  | expression {expr : Expr} (admissible : Expr.Admissible expr) :
      Child.Admissible (.expression expr)

end

inductive Declarator.Admissible : Declarator → Prop where
  | bare (name : String) (place span : Span) :
      Declarator.Admissible ⟨.identifier name place, none, span⟩
  | initialized (name : String) (place : Span) {expr : Expr} (admissible : expr.Admissible)
      (span : Span) : Declarator.Admissible ⟨.identifier name place, some expr, span⟩

/-- No module-level declaration is admissible, and no other kind of statement. -/
inductive Statement.Admissible : Statement → Prop where
  | empty (span : Span) : Statement.Admissible (.empty span)
  | expression {expr : Expr} (admissible : expr.Admissible) (span : Span) :
      Statement.Admissible (.expression expr span)
  | declaration {decl : Declaration}
      (declarators : ∀ declarator ∈ decl.declarators, declarator.Admissible) :
      Statement.Admissible (.declaration decl)

def Program.Admissible (program : Program) : Prop :=
  ∀ statement ∈ program.body, statement.Admissible

theorem Expr.Chain.check_eq {expr : Expr} {reference : Reference} (chain : expr.Chain reference) :
    expr.check = .ok reference := by
  induction chain with
  | identifier name span => rfl
  | named chain name place span ih =>
    cases chain with
    | identifier root place => rfl
    | named chain inner place span =>
      simp only [Expr.check, ih]
      rfl

/-- The check reads literals and chains as what they are, and nothing else. -/
theorem Expr.check_eq_ok_iff (expr : Expr) (reference : Reference) :
    expr.check = .ok reference ↔
      (∃ value, expr = .literal value ∧ reference = .literal value) ∨ expr.Chain reference := by
  constructor
  · intro checked
    fun_induction Expr.check expr generalizing reference with
    | case1 name span =>
      cases checked
      exact .inr (.identifier name span)
    | case2 value =>
      cases checked
      exact .inl ⟨value, rfl, rfl⟩
    | case6 object name place span plain ih =>
      cases inner : object.check with
      | error violation => simp only [inner] at checked; cases checked
      | ok root =>
        simp only [inner] at checked
        cases checked
        rcases ih root inner with ⟨value, rfl, -⟩ | chain
        · exact absurd rfl (plain value)
        · exact .inr (.named chain name place span)
    | _ => cases checked
  · rintro (⟨value, rfl, rfl⟩ | chain)
    · rfl
    · exact chain.check_eq

theorem Expr.admissible_iff_check (expr : Expr) (plain : expr.element? = none) :
    expr.Admissible ↔ ∃ reference, expr.check = .ok reference := by
  constructor
  · intro admissible
    cases admissible with
    | literal value => exact ⟨_, rfl⟩
    | chain chain => exact ⟨_, chain.check_eq⟩
    | element admissible => cases plain
  · rintro ⟨reference, checked⟩
    rcases (expr.check_eq_ok_iff reference).mp checked with ⟨value, rfl, -⟩ | chain
    · exact .literal value
    · exact .chain chain

/-- An expression that is no element meets nothing exactly if it may be read. -/
theorem Expr.refusals_of_not_element (expr : Expr) (plain : expr.element? = none) :
    refusals expr.visits = [] ↔ expr.Admissible := by
  rw [expr.visits_of_not_element plain, expr.admissible_iff_check plain]
  cases expr.check with
  | error violation => exact ⟨nofun, nofun⟩
  | ok reference => exact ⟨fun _ => ⟨reference, rfl⟩, fun _ => rfl⟩

mutual

private theorem Element.refusals_eq_nil_iff : (element : Element) →
    (refusals element.visits = [] ↔ element.Admissible)
  | ⟨name, attributes, children, selfClosing, span⟩ => by
    rw [Element.visits, refusals_entered, refusals_append, List.append_eq_nil_iff,
      refusals_attributes_eq_nil_iff attributes, refusals_children_eq_nil_iff children]
    constructor
    · rintro ⟨attributes, children⟩
      exact .intro attributes children
    · rintro ⟨attributes, children⟩
      exact ⟨attributes, children⟩

private theorem Expr.refusals_eq_nil_iff : (expr : Expr) → (refusals expr.visits = [] ↔ expr.Admissible)
  | .element inner => by
    rw [Expr.visits, inner.refusals_eq_nil_iff]
    constructor
    · exact .element
    · intro admissible
      cases admissible with
      | element admissible => exact admissible
      | chain chain => cases chain
  | .identifier .. | .literal _ | .member .. | .call _ | .binary .. | .unary .. | .conditional _
  | .assignment _ | .arrow _ | .template _ | .unsupported .. =>
    Expr.refusals_of_not_element _ rfl

private theorem Attribute.refusals_eq_nil_iff : (item : Attribute) →
    (refusals item.visits = [] ↔ item.Admissible)
  | .named name .absent span => by
    rw [Attribute.visits, AttributeValue.visits]
    exact ⟨fun _ => .absent name span, fun _ => rfl⟩
  | .named name (.text value place) span => by
    rw [Attribute.visits, AttributeValue.visits]
    exact ⟨fun _ => .text name value place span, fun _ => rfl⟩
  | .named name (.expression expr) span => by
    rw [Attribute.visits, AttributeValue.visits, expr.refusals_eq_nil_iff]
    constructor
    · intro admissible
      exact .expression name admissible span
    · intro admissible
      cases admissible with
      | expression _ admissible _ => exact admissible
  | .named name (.empty place) span => by
    rw [Attribute.visits, AttributeValue.visits]
    constructor
    · intro accepted
      cases accepted
    · intro admissible
      cases admissible
  | .spread span => by
    rw [Attribute.visits]
    constructor
    · intro accepted
      cases accepted
    · intro admissible
      cases admissible

private theorem refusals_attributes_eq_nil_iff : (attributes : List Attribute) →
    (refusals (visitsOfAttributes attributes) = [] ↔ ∀ item ∈ attributes, item.Admissible)
  | [] => by simp [visitsOfAttributes]
  | item :: rest => by
    rw [visitsOfAttributes, refusals_append, List.append_eq_nil_iff, item.refusals_eq_nil_iff,
      refusals_attributes_eq_nil_iff rest, List.forall_mem_cons]

private theorem Child.refusals_eq_nil_iff : (child : Child) →
    (refusals child.visits = [] ↔ child.Admissible)
  | .text value span => by
    rw [Child.visits]
    exact ⟨fun _ => .text value span, fun _ => rfl⟩
  | .empty span => by
    rw [Child.visits]
    exact ⟨fun _ => .empty span, fun _ => rfl⟩
  | .element inner => by
    rw [Child.visits, inner.refusals_eq_nil_iff]
    constructor
    · exact .element
    · rintro ⟨⟩
      assumption
  | .expression expr => by
    rw [Child.visits, expr.refusals_eq_nil_iff]
    constructor
    · exact .expression
    · rintro ⟨⟩
      assumption
  | .unsupported kind span => by
    rw [Child.visits]
    constructor
    · intro accepted
      cases accepted
    · intro admissible
      cases admissible

private theorem refusals_children_eq_nil_iff : (children : List Child) →
    (refusals (visitsOfChildren children) = [] ↔ ∀ child ∈ children, child.Admissible)
  | [] => by simp [visitsOfChildren]
  | child :: rest => by
    rw [visitsOfChildren, refusals_append, List.append_eq_nil_iff, child.refusals_eq_nil_iff,
      refusals_children_eq_nil_iff rest, List.forall_mem_cons]

end

private theorem Declarator.refusals_eq_nil_iff (declarator : Declarator) :
    refusals declarator.visits = [] ↔ declarator.Admissible := by
  obtain ⟨binding, init, span⟩ := declarator
  rw [Declarator.visits, refusals_append, List.append_eq_nil_iff]
  cases binding with
  | pattern place =>
    constructor
    · rintro ⟨impossible, -⟩
      cases impossible
    · intro admissible
      cases admissible
  | identifier name place =>
    cases init with
    | none => exact ⟨fun _ => .bare name place span, fun _ => ⟨rfl, rfl⟩⟩
    | some expr =>
      have initializer := expr.refusals_eq_nil_iff
      constructor
      · rintro ⟨-, accepted⟩
        exact .initialized name place (initializer.mp accepted) span
      · intro admissible
        cases admissible with
        | initialized _ _ admissible _ => exact ⟨rfl, initializer.mpr admissible⟩

/-- The search for module-level declarations and the walk share the work: a
statement is admissible if neither of them refuses anything in it. -/
theorem Statement.accepted_iff (statement : Statement) :
    statement.moduleViolation? = none ∧ refusals statement.visits = [] ↔ statement.Admissible := by
  cases statement with
  | moduleItem kind span =>
    constructor
    · rintro ⟨impossible, -⟩
      cases impossible
    · intro admissible
      cases admissible
  | expression expr span =>
    constructor
    · rintro ⟨-, accepted⟩
      exact .expression (expr.refusals_eq_nil_iff.mp accepted) span
    · intro admissible
      cases admissible with
      | expression admissible _ => exact ⟨rfl, expr.refusals_eq_nil_iff.mpr admissible⟩
  | declaration decl =>
    have declarators : refusals (Statement.declaration decl).visits = [] ↔
        ∀ declarator ∈ decl.declarators, declarator.Admissible := by
      rw [Statement.visits, refusals_flatMap, List.flatMap_eq_nil_iff]
      exact forall₂_congr fun declarator _ => declarator.refusals_eq_nil_iff
    constructor
    · rintro ⟨-, accepted⟩
      exact .declaration (declarators.mp accepted)
    · intro admissible
      cases admissible with
      | declaration admissible => exact ⟨rfl, declarators.mpr admissible⟩
  | empty span => exact ⟨fun _ => .empty span, fun _ => ⟨rfl, rfl⟩⟩
  | unsupported kind span =>
    constructor
    · rintro ⟨-, impossible⟩
      cases impossible
    · intro admissible
      cases admissible

theorem Program.violations_eq_nil_iff (program : Program) :
    program.violations = [] ↔ program.Admissible := by
  rw [violations, moduleViolations, visits, refusals_flatMap, List.append_eq_nil_iff,
    List.filterMap_eq_nil_iff, List.flatMap_eq_nil_iff]
  constructor
  · rintro ⟨items, walk⟩ statement member
    exact statement.accepted_iff.mp ⟨items statement member, walk statement member⟩
  · intro admissible
    exact ⟨fun statement member => (statement.accepted_iff.mpr (admissible statement member)).1,
      fun statement member => (statement.accepted_iff.mpr (admissible statement member)).2⟩

/-- In either mode the compiler accepts the logic-free programs and no others.
One inadmissible node anywhere makes the whole compilation fail, and the failure
names what the policy refused. -/
theorem Program.compiles_iff_admissible (program : Program) (mode : Mode) :
    ((∃ output, (program.compile mode).1 = .ok output) ↔ program.Admissible) ∧
    (¬ program.Admissible → ∃ violation rest,
      (program.compile mode).1 = .error (.policy (violation :: rest))) := by
  rw [← violations_eq_nil_iff]
  refine ⟨program.compile_ok_iff mode, ?_⟩
  intro refused
  cases mode with
  | first =>
    obtain ⟨violation, rest, met⟩ := List.exists_cons_of_ne_nil refused
    exact ⟨violation, [], by rw [compile_first, met]⟩
  | collect =>
    have reported : byPlace program.violations ≠ [] := by
      intro empty
      have perm := (byPlace_stablySorted program.violations).perm
      rw [empty] at perm
      exact refused perm.nil_eq.symm
    obtain ⟨violation, rest, report⟩ := List.exists_cons_of_ne_nil reported
    exact ⟨violation, rest, by rw [compile_collect, if_neg refused, report]⟩

end LogicFree.Template
