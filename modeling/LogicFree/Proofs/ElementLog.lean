import LogicFree.Proofs.ElementCalls

/-! The log against the code. A run leaves one event for each visit that it makes and
counts the elements that it enters, so the log of a file that compiles names the calls of
its code in their order, and ends with their number. -/

namespace LogicFree

def Visit.event : Visit → Event
  | .entered tag attributes children selfClosing => .element tag attributes children selfClosing
  | .refused violation => .rejected violation

def Visit.tag? : Visit → Option String
  | .entered tag _ _ _ => some tag
  | .refused _ => none

/-- The tags of the elements that a walk enters, in its order. -/
def entered (visits : List Visit) : List String :=
  visits.filterMap Visit.tag?

private theorem entered_append (first second : List Visit) :
    entered (first ++ second) = entered first ++ entered second :=
  List.filterMap_append

private theorem entered_flatMap (items : List α) (visits : α → List Visit) :
    entered (items.flatMap visits) = items.flatMap fun item => entered (visits item) :=
  List.filterMap_flatMap

/-- A check enters nothing. -/
theorem entered_checkVisits (result : Except Violation α) : entered (Pass.checkVisits result) = [] := by
  cases result <;> rfl

namespace Pass

/-- What is left behind by some visits: an event for each of them, in their order, and a
higher count of elements. -/
structure Makes (before : Pass) (visits : List Visit) (after : Pass) : Prop where
  events : after.events.toList = before.events.toList ++ visits.map Visit.event
  elements : after.elements = before.elements + (entered visits).length

theorem Makes.nothing (pass : Pass) : pass.Makes [] pass :=
  ⟨(List.append_nil _).symm, rfl⟩

private theorem Makes.entered_cons {before after : Pass} {visits : List Visit} {tag : String}
    {attributes children : Nat} {selfClosing : Bool}
    (makes : (before.log (.element tag attributes children selfClosing)).countElement.Makes visits after) :
    before.Makes (.entered tag attributes children selfClosing :: visits) after := by
  obtain ⟨events, elements⟩ := makes
  refine ⟨?_, ?_⟩
  · simpa [log, countElement, Visit.event] using events
  · rw [elements]
    simp only [log, countElement, entered, Visit.tag?, List.filterMap_cons, List.length_cons]
    omega

theorem Makes.refused (pass : Pass) (violation : Violation) :
    pass.Makes [.refused violation] (pass.log (.rejected violation)) :=
  ⟨by simp [log, Visit.event], rfl⟩

private theorem Makes.refused_cons {before after : Pass} {visits : List Visit} {violation : Violation}
    (makes : ((before.log (.rejected violation)).record violation).Makes visits after) :
    before.Makes (.refused violation :: visits) after := by
  obtain ⟨events, elements⟩ := makes
  exact ⟨by simpa [log, record, Visit.event] using events, elements⟩

/-- A replay does nothing but make visits, and it makes all of its own unless it is stopped. -/
theorem replay_makes (value : α) (visits : List Visit) (pass : Pass) :
    ∃ made, pass.Makes made (pass.replay value visits).2 ∧
      ((pass.replay value visits).1 = .ok value → made = visits) := by
  induction visits generalizing pass with
  | nil => exact ⟨[], .nothing pass, fun _ => rfl⟩
  | cons visit rest ih =>
    cases visit with
    | entered tag attributes children selfClosing =>
      obtain ⟨made, makes, all⟩ :=
        ih (pass.log (.element tag attributes children selfClosing)).countElement
      exact ⟨_ :: made, makes.entered_cons, fun ended => congrArg _ (all ended)⟩
    | refused violation =>
      cases mode : pass.mode with
      | first =>
        -- The node that stops the run is in the log by then.
        simp only [replay, mode]
        refine ⟨[.refused violation], .refused pass violation, ?_⟩
        intro ended
        cases ended
      | collect =>
        obtain ⟨made, makes, all⟩ := ih ((pass.log (.rejected violation)).record violation)
        simp only [replay, mode]
        exact ⟨_ :: made, makes.refused_cons, fun ended => congrArg _ (all ended)⟩

end Pass

/-- What the events of one message say in one of their fields, in the order of the log. -/
def told (message field : String) (log : List Event) : List (Option Field) :=
  (log.filter (·.message = message)).map (·.fields.lookup field)

private theorem told_cons (message field : String) (event : Event) (rest : List Event) :
    told message field (event :: rest) =
      if event.message = message then event.fields.lookup field :: told message field rest
      else told message field rest := by
  simp only [told, List.filter_cons, decide_eq_true_eq]
  split <;> rfl

private theorem told_append (message field : String) (first second : List Event) :
    told message field (first ++ second) = told message field first ++ told message field second := by
  rw [told, List.filter_append, List.map_append]
  rfl

/-- Events of other messages tell nothing. -/
theorem told_eq_nil {message : String} (field : String) {log : List Event}
    (others : ∀ event ∈ log, event.message ≠ message) : told message field log = [] := by
  simpa [told] using others

/-- The events of a walk name the elements that it enters. -/
theorem told_entered (visits : List Visit) :
    told "transforming element" "tag" (visits.map Visit.event) =
      (entered visits).map fun tag => some (.text tag) := by
  induction visits with
  | nil => rfl
  | cons visit rest ih =>
    rw [List.map_cons, told_cons, ih]
    cases visit with
    | entered tag attributes children selfClosing => exact if_pos rfl
    | refused violation => exact if_neg (by simp [Visit.event, Event.message])

private theorem Visit.event_not_compiled (visit : Visit) : visit.event.message ≠ "template file compiled" := by
  cases visit <;> simp [Visit.event, Event.message]

namespace Template
open Output (CreateCall)

-- A walk enters every element of the template, also behind a node that it refuses.
mutual

theorem Element.entered_visits : (element : Element) →
    entered element.visits = element.elements.map Element.name
  | ⟨name, attributes, children, selfClosing, span⟩ => by
    have items := entered_visitsOfAttributes attributes
    have content := entered_visitsOfChildren children
    rw [Element.visits, Element.elements, List.map_cons, List.map_append, ← items, ← content,
      ← entered_append]
    rfl

theorem Expr.entered_visits : (expr : Expr) →
    entered expr.visits = expr.elements.map Element.name
  | .element inner => by
    rw [Expr.visits, Expr.elements]
    exact inner.entered_visits
  | .identifier .. | .literal _ | .member .. | .call _ | .binary .. | .unary .. | .conditional _
  | .assignment _ | .arrow _ | .template _ | .unsupported .. => by
    rw [Expr.visits_of_not_element _ rfl, Expr.elements_of_not_element _ rfl, entered_checkVisits,
      List.map_nil]

theorem AttributeValue.entered_visits : (value : AttributeValue) →
    entered value.visits = value.elements.map Element.name
  | .absent | .text .. | .empty _ => by
    rw [AttributeValue.visits, AttributeValue.elements]
    rfl
  | .expression expr => by
    rw [AttributeValue.visits, AttributeValue.elements]
    exact expr.entered_visits

theorem Attribute.entered_visits : (item : Attribute) →
    entered item.visits = item.elements.map Element.name
  | .named _ value _ => by
    rw [Attribute.visits, Attribute.elements]
    exact value.entered_visits
  | .spread _ => by
    rw [Attribute.visits, Attribute.elements]
    rfl

private theorem entered_visitsOfAttributes : (attributes : List Attribute) →
    entered (visitsOfAttributes attributes) = (elementsOfAttributes attributes).map Element.name
  | [] => by
    rw [visitsOfAttributes, elementsOfAttributes]
    rfl
  | item :: rest => by
    rw [visitsOfAttributes, elementsOfAttributes, entered_append, List.map_append,
      item.entered_visits, entered_visitsOfAttributes rest]

theorem Child.entered_visits : (child : Child) →
    entered child.visits = child.elements.map Element.name
  | .text .. | .empty _ | .unsupported .. => by
    rw [Child.visits, Child.elements]
    rfl
  | .element inner => by
    rw [Child.visits, Child.elements]
    exact inner.entered_visits
  | .expression expr => by
    rw [Child.visits, Child.elements]
    exact expr.entered_visits

private theorem entered_visitsOfChildren : (children : List Child) →
    entered (visitsOfChildren children) = (elementsOfChildren children).map Element.name
  | [] => by
    rw [visitsOfChildren, elementsOfChildren]
    rfl
  | child :: rest => by
    rw [visitsOfChildren, elementsOfChildren, entered_append, List.map_append,
      child.entered_visits, entered_visitsOfChildren rest]

end

theorem Declarator.entered_visits (declarator : Declarator) :
    entered declarator.visits = (declarator.init.toList.flatMap Expr.elements).map Element.name := by
  obtain ⟨binding, init, span⟩ := declarator
  rw [Declarator.visits, entered_append, entered_checkVisits, List.nil_append]
  cases init with
  | none => rfl
  | some expr =>
    rw [Option.toList_some, List.flatMap_singleton]
    exact expr.entered_visits

theorem Statement.entered_visits (statement : Statement) :
    entered statement.visits = (statement.sites.flatMap Expr.elements).map Element.name := by
  cases statement with
  | moduleItem kind span => rfl
  | empty span => rfl
  | unsupported kind span => rfl
  | expression expr span =>
    rw [Statement.sites, List.flatMap_singleton]
    exact expr.entered_visits
  | declaration decl =>
    rw [Statement.visits, Statement.sites, entered_flatMap, List.filterMap_eq_flatMap_toList,
      List.flatMap_assoc, List.map_flatMap]
    simp only [Declarator.entered_visits]

theorem Program.entered_visits (program : Program) :
    entered program.visits = program.elements.map Element.name := by
  rw [Program.visits, Program.elements, Program.sites, entered_flatMap, List.flatMap_assoc,
    List.map_flatMap]
  simp only [Statement.entered_visits]

/-- An accepted walk enters an element for each call of the code, in the same order. -/
theorem Program.entered_calls (program : Program) (accepted : program.violations = []) :
    entered program.visits = program.image.calls.map CreateCall.tag := by
  rw [program.entered_visits, program.calls_image accepted, List.map_map]
  apply List.map_congr_left
  intro element _
  exact element.tag_image.symm

/-- Without a violation both modes do nothing but the walk. -/
theorem Program.compileBody_accepted (program : Program) (mode : Mode)
    (accepted : program.violations = []) :
    program.compileBody.run.run (program.opening mode) =
      (program.opening mode).replay program.image program.visits := by
  have items : program.moduleViolations = [] := (List.append_eq_nil_iff.mp accepted).1
  cases mode with
  | first => rw [compileBody_first program _ rfl, items]
  | collect => rw [compileBody_collect program _ rfl, items]; rfl

/-- A compilation makes visits and nothing else before it ends. -/
theorem Program.compileBody_makes (program : Program) (mode : Mode) :
    ∃ made, (program.opening mode).Makes made
      (program.compileBody.run.run (program.opening mode)).2 := by
  cases mode with
  | first =>
    rw [compileBody_first program _ rfl]
    cases program.moduleViolations with
    | nil =>
      obtain ⟨made, makes, -⟩ := Pass.replay_makes program.image program.visits (program.opening .first)
      exact ⟨made, makes⟩
    | cons violation rest => exact ⟨[], .nothing _⟩
  | collect =>
    rw [compileBody_collect program _ rfl]
    obtain ⟨made, makes, -⟩ := Pass.replay_makes program.image
      (program.moduleViolations.map .refused ++ program.visits) (program.opening .collect)
    exact ⟨made, makes⟩

/-- The whole log of a file that compiles. -/
theorem Program.log_accepted (program : Program) (mode : Mode) (accepted : program.violations = []) :
    (program.compile mode).2.toList =
      (program.opening mode).events.toList ++ program.visits.map Visit.event ++
        [.compiled (entered program.visits).length] := by
  obtain ⟨next, run, kept⟩ := Pass.replay_accepted program.image program.visits
    (program.opening mode) (walk_accepted accepted)
  obtain ⟨made, makes, all⟩ := Pass.replay_makes program.image program.visits (program.opening mode)
  rw [run] at makes all
  obtain rfl := all rfl
  obtain ⟨events, elements⟩ := makes
  have finished : next.finish = .ok () := by
    rw [Pass.finish, kept]
    rfl
  have counted : next.elements = (entered program.visits).length := elements.trans (Nat.zero_add _)
  rw [compile_eq, program.compileBody_accepted mode accepted, run]
  simp only [finished, Array.toList_push, counted]
  exact congrArg (· ++ _) events

/-- Before its end a compilation never logs that the file is compiled. -/
theorem Program.not_compiled_of_makes (program : Program) (mode : Mode) {made : List Visit} {pass : Pass}
    (makes : (program.opening mode).Makes made pass) :
    ∀ event ∈ pass.events, event.message ≠ "template file compiled" := by
  intro event member
  rw [← Array.mem_toList_iff, makes.events, List.mem_append] at member
  rcases member with opening | walk
  · simp only [Program.opening, List.mem_singleton] at opening
    subst event
    simp [Event.message]
  · obtain ⟨visit, -, rfl⟩ := List.mem_map.mp walk
    exact visit.event_not_compiled

private theorem Program.compiled_logged_iff (program : Program) (mode : Mode) :
    (∃ event ∈ (program.compile mode).2, event.message = "template file compiled") ↔
      ∃ output, (program.compile mode).1 = .ok output := by
  constructor
  · rintro ⟨event, member, told⟩
    obtain ⟨made, makes⟩ := program.compileBody_makes mode
    have before := program.not_compiled_of_makes mode makes
    rw [compile_eq] at member ⊢
    generalize program.compileBody.run.run (program.opening mode) = ended at before member ⊢
    obtain ⟨violation | output, pass⟩ := ended
    · exact absurd told (before event member)
    · cases finished : pass.finish with
      | error failure =>
        simp only [finished] at member
        exact absurd told (before event member)
      | ok done => exact ⟨output, by simp only [finished]⟩
  · intro compiled
    have accepted := (program.compile_ok_iff mode).mp compiled
    refine ⟨.compiled (entered program.visits).length, ?_, rfl⟩
    rw [← Array.mem_toList_iff, program.log_accepted mode accepted]
    exact List.mem_append_right _ (List.mem_singleton_self _)

private theorem Program.tags_told (program : Program) (mode : Mode) (accepted : program.violations = []) :
    told "transforming element" "tag" (program.compile mode).2.toList =
      program.image.calls.map fun call => some (.text call.tag) := by
  have opening : told "transforming element" "tag" (program.opening mode).events.toList = [] :=
    told_eq_nil _ (by simp [Program.opening, Event.message])
  have closing : told "transforming element" "tag" [.compiled (entered program.visits).length] = [] :=
    told_eq_nil _ (by simp [Event.message])
  rw [program.log_accepted mode accepted, told_append, told_append, opening, closing, told_entered,
    List.nil_append, List.append_nil, program.entered_calls accepted, List.map_map]
  rfl

private theorem Program.count_told (program : Program) (mode : Mode) (accepted : program.violations = []) :
    told "template file compiled" "elements" (program.compile mode).2.toList =
      [some (.number program.image.calls.length)] := by
  have opening : told "template file compiled" "elements" (program.opening mode).events.toList = [] :=
    told_eq_nil _ (by simp [Program.opening, Event.message])
  have between : told "template file compiled" "elements" (program.visits.map Visit.event) = [] :=
    told_eq_nil _ (List.forall_mem_map.mpr fun visit _ => visit.event_not_compiled)
  rw [program.log_accepted mode accepted, told_append, told_append, opening, between,
    program.entered_calls accepted, List.length_map]
  rfl

/-- The log of a file that compiles names the tags of all calls of the code, each before
those inside it, and its last event gives their number. Only such a log has that event. -/
theorem Program.log_tells_calls (program : Program) (mode : Mode) :
    (∀ output, (program.compile mode).1 = .ok output →
      told "transforming element" "tag" (program.compile mode).2.toList =
        output.calls.map (fun call => some (.text call.tag)) ∧
      told "template file compiled" "elements" (program.compile mode).2.toList =
        [some (.number output.calls.length)] ∧
      (program.compile mode).2.toList.getLast?.map Event.message = some "template file compiled") ∧
    ((∃ event ∈ (program.compile mode).2, event.message = "template file compiled") ↔
      ∃ output, (program.compile mode).1 = .ok output) := by
  refine ⟨?_, program.compiled_logged_iff mode⟩
  intro output compiled
  obtain ⟨accepted, rfl⟩ := (program.compile_eq_ok_iff mode output).mp compiled
  refine ⟨program.tags_told mode accepted, program.count_told mode accepted, ?_⟩
  rw [program.log_accepted mode accepted, List.getLast?_concat]
  rfl

end Template

end LogicFree
