import Mathlib.Data.List.Chain
import LogicFree.Proofs.AdmissibleTemplates

/-! Violations in the order of the source. In a tree that was read from a text every
node lies inside its parent, and siblings follow one another. The walk over such a
tree meets violations by the place where they begin, so that sorting them changes
nothing and the first one met is the first one of the report. -/

namespace LogicFree

namespace Span

def Proper (span : Span) : Prop := span.start ≤ span.stop

def Within (inner outer : Span) : Prop := outer.start ≤ inner.start ∧ inner.stop ≤ outer.stop

def Before (earlier later : Span) : Prop := earlier.stop ≤ later.start

instance : DecidablePred Proper := fun span => inferInstanceAs (Decidable (span.start ≤ span.stop))

instance : DecidableRel Within := fun inner outer =>
  inferInstanceAs (Decidable (outer.start ≤ inner.start ∧ inner.stop ≤ outer.stop))

instance : DecidableRel Before := fun earlier later =>
  inferInstanceAs (Decidable (earlier.stop ≤ later.start))

/-- A place with the places of its parts: they lie inside it, each before the next. -/
structure Holds (outer : Span) (parts : List Span) : Prop where
  proper : outer.Proper
  inside : ∀ part ∈ parts, part.Within outer
  apart : parts.IsChain Before

instance (outer : Span) (parts : List Span) : Decidable (outer.Holds parts) :=
  decidable_of_iff (outer.Proper ∧ (∀ part ∈ parts, part.Within outer) ∧ parts.IsChain Before)
    ⟨fun ⟨proper, inside, apart⟩ => ⟨proper, inside, apart⟩,
      fun ⟨proper, inside, apart⟩ => ⟨proper, inside, apart⟩⟩

/-- Proper places of which each is before the next are all in this order. -/
theorem pairwise_before {parts : List Span} (proper : ∀ part ∈ parts, part.Proper)
    (apart : parts.IsChain Before) : parts.Pairwise Before := by
  induction parts with
  | nil => exact .nil
  | cons first rest ih =>
    have later := ih (fun part member => proper part (List.mem_cons_of_mem first member)) apart.of_cons
    refine List.pairwise_cons.mpr ⟨?_, later⟩
    cases rest with
    | nil => exact nofun
    | cons second rest =>
      have step : first.Before second := (List.isChain_cons_cons.mp apart).1
      have width : second.Proper := proper second (by simp)
      intro part member
      rcases List.mem_cons.mp member with rfl | member
      · exact step
      · have beyond : second.Before part := (List.pairwise_cons.mp later).1 part member
        unfold Before Proper at *
        omega

end Span

/-- Violations in the order of the source, each of which begins inside a place. -/
structure Arranged (outer : Span) (met : List Violation) : Prop where
  proper : outer.Proper
  inside : ∀ violation ∈ met,
    outer.start ≤ violation.span.start ∧ violation.span.start ≤ outer.stop
  ordered : met.Pairwise fun earlier later => earlier.span.start ≤ later.span.start

theorem Arranged.nil {outer : Span} (proper : outer.Proper) : Arranged outer [] :=
  ⟨proper, nofun, .nil⟩

theorem Arranged.single {span : Span} (construct : Construct) (proper : span.Proper) :
    Arranged span [⟨construct, span⟩] := by
  refine ⟨proper, ?_, List.pairwise_singleton _ _⟩
  intro violation member
  rw [List.mem_singleton.mp member]
  exact ⟨Nat.le_refl _, proper⟩

private theorem Arranged.widen {inner outer : Span} {met : List Violation} (arranged : Arranged inner met)
    (within : inner.Within outer) : Arranged outer met := by
  have proper : inner.start ≤ inner.stop := arranged.proper
  obtain ⟨before, beyond⟩ := within
  refine ⟨Nat.le_trans before (Nat.le_trans proper beyond), ?_, arranged.ordered⟩
  intro violation member
  obtain ⟨begins, ends⟩ := arranged.inside violation member
  exact ⟨Nat.le_trans before begins, Nat.le_trans ends beyond⟩

/-- Parts that follow one another have their violations in one order. -/
theorem arranged_parts {outer : Span} (parts : List α) (place : α → Span) (met : α → List Violation)
    (held : outer.Holds (parts.map place)) (each : ∀ part ∈ parts, Arranged (place part) (met part)) :
    Arranged outer (parts.flatMap met) := by
  refine ⟨held.proper, ?_, ?_⟩
  · intro violation member
    obtain ⟨part, inParts, found⟩ := List.mem_flatMap.mp member
    have within : (place part).Within outer := held.inside _ (List.mem_map_of_mem inParts)
    have begins := (each part inParts).inside violation found
    unfold Span.Within at within
    omega
  · have proper : ∀ span ∈ parts.map place, span.Proper := by
      intro span member
      obtain ⟨part, inParts, rfl⟩ := List.mem_map.mp member
      exact (each part inParts).proper
    have before := List.pairwise_map.mp (Span.pairwise_before proper held.apart)
    refine List.pairwise_flatMap.mpr ⟨fun part member => (each part member).ordered, ?_⟩
    refine before.imp_of_mem ?_
    intro first second inFirst inSecond apart earlier metFirst later metSecond
    have ends := ((each first inFirst).inside earlier metFirst).2
    have begins := ((each second inSecond).inside later metSecond).1
    unfold Span.Before at apart
    omega

namespace Template

def Expr.span : Expr → Span
  | .identifier _ span | .member _ _ span | .call span | .binary _ span | .unary _ span
  | .conditional span | .assignment span | .arrow span | .template span | .unsupported _ span => span
  | .literal value => value.span
  | .element inner => inner.span

def Property.span : Property → Span
  | .named _ span | .hidden span => span
  | .computed index => index.span

def Attribute.span : Attribute → Span
  | .named _ _ span | .spread span => span

def AttributeValue.span? : AttributeValue → Option Span
  | .absent => none
  | .text _ span | .empty span => some span
  | .expression expr => some expr.span

def Child.span : Child → Span
  | .text _ span | .empty span | .unsupported _ span => span
  | .element inner => inner.span
  | .expression expr => expr.span

def Binding.span : Binding → Span
  | .identifier _ span | .pattern span => span

def Statement.span : Statement → Span
  | .moduleItem _ span | .expression _ span | .empty span | .unsupported _ span => span
  | .declaration decl => decl.span

mutual

/-- The object and the property of a member lie inside it. All other nodes hold their
parts from left to right. -/
def Expr.laidOut : Expr → Bool
  | .member object property span =>
    span.Proper && object.span.Within span && property.span.Within span &&
      object.laidOut && property.laidOut
  | .literal value => value.span.Proper
  | .element inner => inner.laidOut
  | .identifier _ span | .call span | .binary _ span | .unary _ span | .conditional span
  | .assignment span | .arrow span | .template span | .unsupported _ span => span.Proper

def Property.laidOut : Property → Bool
  | .named _ span | .hidden span => span.Proper
  | .computed index => index.laidOut

/-- The attributes of an element stand before its children. -/
def Element.laidOut : Element → Bool
  | ⟨_, attributes, children, _, span⟩ =>
    span.Holds (attributes.map Attribute.span ++ children.map Child.span) &&
      attributesLaidOut attributes && childrenLaidOut children

def Attribute.laidOut : Attribute → Bool
  | .named _ value span => span.Holds value.span?.toList && value.laidOut
  | .spread span => span.Proper

def AttributeValue.laidOut : AttributeValue → Bool
  | .absent => true
  | .text _ span | .empty span => span.Proper
  | .expression expr => expr.laidOut

def attributesLaidOut : List Attribute → Bool
  | [] => true
  | item :: rest => item.laidOut && attributesLaidOut rest

def Child.laidOut : Child → Bool
  | .text _ span | .empty span | .unsupported _ span => span.Proper
  | .element inner => inner.laidOut
  | .expression expr => expr.laidOut

def childrenLaidOut : List Child → Bool
  | [] => true
  | child :: rest => child.laidOut && childrenLaidOut rest

end

/-- The binding of a declarator stands before its initializer. -/
def Declarator.laidOut (declarator : Declarator) : Bool :=
  declarator.span.Holds (declarator.binding.span :: (declarator.init.map Expr.span).toList) &&
    declarator.binding.span.Proper && declarator.init.all Expr.laidOut

def Statement.laidOut : Statement → Bool
  | .moduleItem _ span | .empty span | .unsupported _ span => span.Proper
  | .expression expr span => span.Holds [expr.span] && expr.laidOut
  | .declaration decl =>
    decl.span.Holds (decl.declarators.map Declarator.span) && decl.declarators.all Declarator.laidOut

def Program.laidOut (program : Program) : Bool :=
  program.span.Holds (program.body.map Statement.span) && program.body.all Statement.laidOut

private theorem Expr.laidOut_member (object : Expr) (property : Property) (span : Span)
    (laidOut : (Expr.member object property span).laidOut = true) :
    span.Proper ∧ object.span.Within span ∧ property.span.Within span ∧
      object.laidOut = true ∧ property.laidOut = true := by
  simpa only [Expr.laidOut, Bool.and_eq_true, decide_eq_true_eq, and_assoc] using laidOut

private theorem Element.laidOut_parts (element : Element) (laidOut : element.laidOut = true) :
    element.span.Holds (element.attributes.map Attribute.span ++ element.children.map Child.span) ∧
      attributesLaidOut element.attributes = true ∧ childrenLaidOut element.children = true := by
  cases element
  simpa only [Element.laidOut, Bool.and_eq_true, decide_eq_true_eq, and_assoc] using laidOut

private theorem Expr.proper_of_laidOut : (expr : Expr) → expr.laidOut = true → expr.span.Proper
  | .member object property span, laidOut => (Expr.laidOut_member object property span laidOut).1
  | .element inner, laidOut => by
    rw [Expr.laidOut] at laidOut
    exact (inner.laidOut_parts laidOut).1.proper
  | .literal _, laidOut | .identifier .., laidOut | .call _, laidOut | .binary .., laidOut
  | .unary .., laidOut | .conditional _, laidOut | .assignment _, laidOut | .arrow _, laidOut
  | .template _, laidOut | .unsupported .., laidOut => by
    simpa only [Expr.laidOut, Expr.span, decide_eq_true_eq] using laidOut

/-- A check reports the expression itself or something inside it. -/
theorem Expr.check_error_within (expr : Expr) (laidOut : expr.laidOut = true)
    (violation : Violation) (refused : expr.check = .error violation) :
    violation.span.Proper ∧ violation.span.Within expr.span := by
  have itself (place : Span) : place.Within place := ⟨Nat.le_refl _, Nat.le_refl _⟩
  fun_induction Expr.check expr with
  | case1 name span => cases refused
  | case2 value => cases refused
  | case3 object index span =>
    cases refused
    exact ⟨Expr.proper_of_laidOut _ laidOut, itself span⟩
  | case4 object place span =>
    cases refused
    obtain ⟨-, -, within, -, hidden⟩ := Expr.laidOut_member object (.hidden place) span laidOut
    rw [Property.laidOut, decide_eq_true_eq] at hidden
    exact ⟨hidden, within⟩
  | case5 value name place span =>
    cases refused
    obtain ⟨-, within, -, literal, -⟩ := Expr.laidOut_member (.literal value) (.named name place) span laidOut
    exact ⟨Expr.proper_of_laidOut _ literal, within⟩
  | case6 object name place span plain ih =>
    obtain ⟨-, within, -, inside, -⟩ := Expr.laidOut_member object (.named name place) span laidOut
    cases inner : object.check with
    | ok reference => rw [inner] at refused; cases refused
    | error found =>
      rw [inner] at refused
      cases refused
      obtain ⟨proper, deeper⟩ := ih inside inner
      exact ⟨proper, Nat.le_trans within.1 deeper.1, Nat.le_trans deeper.2 within.2⟩
  | _ =>
    cases refused
    exact ⟨Expr.proper_of_laidOut _ laidOut, itself _⟩

private theorem Expr.arranged_of_not_element (expr : Expr) (plain : expr.element? = none)
    (laidOut : expr.laidOut = true) : Arranged expr.span (refusals expr.visits) := by
  rw [expr.visits_of_not_element plain]
  cases checked : expr.check with
  | ok reference => exact .nil (expr.proper_of_laidOut laidOut)
  | error violation =>
    obtain ⟨proper, within⟩ := expr.check_error_within laidOut violation checked
    exact (Arranged.single violation.construct proper).widen within

private theorem refusals_attributes (attributes : List Attribute) :
    refusals (visitsOfAttributes attributes) = attributes.flatMap fun item => refusals item.visits := by
  induction attributes with
  | nil => rw [visitsOfAttributes]; rfl
  | cons item rest ih => rw [visitsOfAttributes, refusals_append, ih, List.flatMap_cons]

private theorem refusals_children (children : List Child) :
    refusals (visitsOfChildren children) = children.flatMap fun child => refusals child.visits := by
  induction children with
  | nil => rw [visitsOfChildren]; rfl
  | cons child rest ih => rw [visitsOfChildren, refusals_append, ih, List.flatMap_cons]

mutual

private theorem Element.arranged : (element : Element) → element.laidOut = true →
    Arranged element.span (refusals element.visits)
  | ⟨name, attributes, children, selfClosing, span⟩, laidOut => by
    obtain ⟨held, items, content⟩ := Element.laidOut_parts _ laidOut
    -- Attributes and children are siblings of different types, so they meet as pairs.
    let parts : List (Span × List Violation) :=
      attributes.map (fun item => (item.span, refusals item.visits)) ++
        children.map fun child => (child.span, refusals child.visits)
    have places : parts.map Prod.fst = attributes.map Attribute.span ++ children.map Child.span := by
      simp only [parts, List.map_append, List.map_map, Function.comp_def]
    have each : ∀ part ∈ parts, Arranged part.1 part.2 := by
      intro part member
      rcases List.mem_append.mp member with member | member
      · obtain ⟨item, inside, rfl⟩ := List.mem_map.mp member
        exact attributes_arranged attributes items item inside
      · obtain ⟨child, inside, rfl⟩ := List.mem_map.mp member
        exact children_arranged children content child inside
    have arranged := arranged_parts parts Prod.fst Prod.snd (places ▸ held) each
    rw [Element.visits, refusals_entered, refusals_append, refusals_attributes, refusals_children]
    simpa only [parts, List.flatMap_append, List.flatMap_map] using arranged

private theorem Expr.arranged : (expr : Expr) → expr.laidOut = true →
    Arranged expr.span (refusals expr.visits)
  | .element inner, laidOut => by
    rw [Expr.laidOut] at laidOut
    rw [Expr.visits]
    exact inner.arranged laidOut
  | .identifier .., laidOut | .literal _, laidOut | .member .., laidOut | .call _, laidOut
  | .binary .., laidOut | .unary .., laidOut | .conditional _, laidOut | .assignment _, laidOut
  | .arrow _, laidOut | .template _, laidOut | .unsupported .., laidOut =>
    Expr.arranged_of_not_element _ rfl laidOut

private theorem Attribute.arranged : (item : Attribute) → item.laidOut = true →
    Arranged item.span (refusals item.visits)
  | .spread span, laidOut => by
    rw [Attribute.laidOut, decide_eq_true_eq] at laidOut
    rw [Attribute.visits]
    exact .single _ laidOut
  | .named _ .absent span, laidOut | .named _ (.text ..) span, laidOut => by
    simp only [Attribute.laidOut, Bool.and_eq_true, decide_eq_true_eq] at laidOut
    rw [Attribute.visits, AttributeValue.visits]
    exact .nil laidOut.1.proper
  | .named _ (.expression expr) span, laidOut => by
    simp only [Attribute.laidOut, AttributeValue.laidOut, Bool.and_eq_true, decide_eq_true_eq] at laidOut
    rw [Attribute.visits, AttributeValue.visits]
    exact (expr.arranged laidOut.2).widen (laidOut.1.inside expr.span (List.mem_singleton_self _))
  | .named _ (.empty place) span, laidOut => by
    simp only [Attribute.laidOut, AttributeValue.laidOut, Bool.and_eq_true, decide_eq_true_eq] at laidOut
    rw [Attribute.visits, AttributeValue.visits]
    exact (Arranged.single _ laidOut.2).widen (laidOut.1.inside place (List.mem_singleton_self place))

private theorem attributes_arranged : (attributes : List Attribute) → attributesLaidOut attributes = true →
    ∀ item ∈ attributes, Arranged item.span (refusals item.visits)
  | [], _ => nofun
  | first :: rest, laidOut => by
    rw [attributesLaidOut, Bool.and_eq_true] at laidOut
    exact List.forall_mem_cons.mpr ⟨first.arranged laidOut.1, attributes_arranged rest laidOut.2⟩

private theorem Child.arranged : (child : Child) → child.laidOut = true →
    Arranged child.span (refusals child.visits)
  | .text _ span, laidOut | .empty span, laidOut => by
    rw [Child.laidOut, decide_eq_true_eq] at laidOut
    rw [Child.visits]
    exact .nil laidOut
  | .unsupported kind span, laidOut => by
    rw [Child.laidOut, decide_eq_true_eq] at laidOut
    rw [Child.visits]
    exact .single _ laidOut
  | .element inner, laidOut => by
    rw [Child.laidOut] at laidOut
    rw [Child.visits]
    exact inner.arranged laidOut
  | .expression expr, laidOut => by
    rw [Child.laidOut] at laidOut
    rw [Child.visits]
    exact expr.arranged laidOut

private theorem children_arranged : (children : List Child) → childrenLaidOut children = true →
    ∀ child ∈ children, Arranged child.span (refusals child.visits)
  | [], _ => nofun
  | first :: rest, laidOut => by
    rw [childrenLaidOut, Bool.and_eq_true] at laidOut
    exact List.forall_mem_cons.mpr ⟨first.arranged laidOut.1, children_arranged rest laidOut.2⟩

end

private theorem Declarator.arranged (declarator : Declarator) (laidOut : declarator.laidOut = true) :
    Arranged declarator.span (refusals declarator.visits) := by
  obtain ⟨binding, init, span⟩ := declarator
  simp only [Declarator.laidOut, Bool.and_eq_true, decide_eq_true_eq] at laidOut
  obtain ⟨⟨held, proper⟩, initializer⟩ := laidOut
  have bound : Arranged binding.span (refusals (Pass.checkVisits binding.check)) := by
    cases binding with
    | identifier name place => exact .nil proper
    | pattern place => exact .single _ proper
  rw [Declarator.visits, refusals_append]
  cases init with
  | none =>
    simpa using bound.widen (held.inside binding.span List.mem_cons_self)
  | some expr =>
    have parts := arranged_parts
      [(binding.span, refusals (Pass.checkVisits binding.check)), (expr.span, refusals expr.visits)]
      Prod.fst Prod.snd held (by simpa using ⟨bound, expr.arranged initializer⟩)
    simpa using parts

private theorem Statement.arranged (statement : Statement) (laidOut : statement.laidOut = true) :
    Arranged statement.span (refusals statement.visits) := by
  cases statement with
  | moduleItem kind span => exact .nil (of_decide_eq_true laidOut)
  | empty span => exact .nil (of_decide_eq_true laidOut)
  | unsupported kind span => exact .single _ (of_decide_eq_true laidOut)
  | expression expr span =>
    simp only [Statement.laidOut, Bool.and_eq_true, decide_eq_true_eq] at laidOut
    exact (expr.arranged laidOut.2).widen (laidOut.1.inside expr.span (List.mem_singleton_self _))
  | declaration decl =>
    simp only [Statement.laidOut, Bool.and_eq_true, decide_eq_true_eq, List.all_eq_true] at laidOut
    obtain ⟨held, declarators⟩ := laidOut
    rw [Statement.visits, refusals_flatMap]
    exact arranged_parts decl.declarators Declarator.span _ held
      fun declarator member => declarator.arranged (declarators declarator member)

private theorem Program.arranged (program : Program) (laidOut : program.laidOut = true) :
    Arranged program.span (refusals program.visits) := by
  simp only [Program.laidOut, Bool.and_eq_true, decide_eq_true_eq, List.all_eq_true] at laidOut
  obtain ⟨held, statements⟩ := laidOut
  rw [Program.visits, refusals_flatMap]
  exact arranged_parts program.body Statement.span _ held
    fun statement member => statement.arranged (statements statement member)

/-- A report needs no sorting, and its first violation is the one that a compilation
in the first mode stops at. -/
structure Program.ReportedInOrder (program : Program) (collected : Pass) : Prop where
  ordered : collected.violations.toList.Pairwise fun earlier later =>
    earlier.span.start ≤ later.span.start
  unsorted : collected.sorted = collected.violations.toList
  first : ∀ violation, (program.compile .first).1 = .error (.policy [violation]) ↔
    ∃ rest, collected.violations.toList = violation :: rest ∧
      (program.compile .collect).1 = .error (.policy (violation :: rest))

/-- Without module-level declarations, which are looked for before the walk, the order
of the walk is the order of the source. -/
theorem Program.reported_in_order (program : Program)
    (plain : ∀ kind span, Statement.moduleItem kind span ∉ program.body)
    (laidOut : program.laidOut = true) :
    program.ReportedInOrder (Pass.step program.compileBody (program.opening .collect)).2 := by
  obtain ⟨pass, run, kept⟩ := program.compileBody_keeps
  have state : (Pass.step program.compileBody (program.opening .collect)).2 = pass := by
    rw [Pass.step, run]
  have noItems : program.moduleViolations = [] := by
    refine List.filterMap_eq_nil_iff.mpr ?_
    intro statement member
    cases statement with
    | moduleItem kind span => exact absurd member (plain kind span)
    | expression expr span => rfl
    | declaration decl => rfl
    | empty span => rfl
    | unsupported kind span => rfl
  have ordered : program.violations.Pairwise fun earlier later =>
      earlier.span.start ≤ later.span.start := by
    rw [violations, noItems, List.nil_append]
    exact (program.arranged laidOut).ordered
  have sorted : byPlace program.violations = program.violations := by
    refine List.mergeSort_of_pairwise (ordered.imp ?_)
    intro earlier later le
    exact decide_eq_true le
  rw [state]
  refine ⟨by rwa [kept], by rw [Pass.sorted, kept]; exact sorted, ?_⟩
  intro violation
  rw [kept, compile_first, compile_collect, sorted]
  cases program.violations with
  | nil => simp
  | cons first rest => simp [eq_comm]

theorem Program.reported_in_order_nested :
    let program : Program := ⟨[.declaration ⟨.constant, [⟨.pattern ⟨6, 9⟩, some (.element ⟨"p",
      [.named "x" (.expression (.call ⟨18, 21⟩)) ⟨15, 22⟩, .spread ⟨24, 28⟩],
      [.expression (.member (.identifier "b" ⟨31, 32⟩) (.hidden ⟨33, 35⟩) ⟨31, 35⟩)], false, ⟨12, 40⟩⟩),
      ⟨6, 40⟩⟩], ⟨0, 41⟩⟩], ⟨0, 41⟩⟩
    (∀ kind span, Statement.moduleItem kind span ∉ program.body) ∧ program.laidOut = true ∧
      (program.compile .first).1 = .error (.policy [⟨.destructuring, ⟨6, 9⟩⟩]) ∧
      program.ReportedInOrder (Pass.step program.compileBody (program.opening .collect)).2 := by
  intro program
  have plain : ∀ kind span, Statement.moduleItem kind span ∉ program.body := by simp [program]
  exact ⟨plain, by decide, rfl, Program.reported_in_order program plain (by decide)⟩

end Template

end LogicFree
