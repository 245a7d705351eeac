import Mathlib.Data.List.Forall2
import LogicFree.Proofs.ElementLog
import LogicFree.Proofs.PassOperations

/-! Recovery from violations. The collecting mode goes on after a refused node and drops
that node only: what it makes of an element is what the first mode makes of the element
without the refused nodes. The one trace of an attribute list that was refused as a whole
is an empty object in place of `null`. -/

namespace LogicFree

namespace Output

mutual

def Argument.tidied : Argument → Argument
  | .string value => .string value
  | .boolean value => .boolean value
  | .reference reference => .reference reference
  | .create call => .create call.tidied

/-- A call with `null` in place of every empty object, at every depth. -/
def CreateCall.tidied : CreateCall → CreateCall
  | ⟨tag, attributes, children, span⟩ =>
    ⟨tag, tidiedAttributes attributes, tidiedChildren children, span⟩

def tidiedAttributes : Option (List Property) → Option (List Property)
  | none => none
  | some [] => none
  | some (first :: rest) => some (first.tidied :: tidiedProperties rest)

def Property.tidied : Property → Property
  | ⟨key, value⟩ => ⟨key, value.tidied⟩

def tidiedProperties : List Property → List Property
  | [] => []
  | property :: rest => property.tidied :: tidiedProperties rest

def tidiedChildren : List Argument → List Argument
  | [] => []
  | child :: rest => child.tidied :: tidiedChildren rest

end

end Output

/-- A step that nothing stops returns its value and counts every element that it enters. -/
theorem Pass.step_unstopped {action : PassM α} {visits : List Visit} {value : α}
    (follows : Follows action visits value) (pass : Pass)
    (unstopped : pass.mode = .collect ∨ refusals visits = []) :
    ∃ next, step action pass = (.ok value, next) ∧
      next.elements = pass.elements + (entered visits).length := by
  have ended : ∃ next, pass.replay value visits = (.ok value, next) := by
    rcases unstopped with collect | accepted
    · obtain ⟨next, run, -⟩ := pass.replay_collect value visits collect
      exact ⟨next, run⟩
    · obtain ⟨next, run, -⟩ := pass.replay_accepted value visits accepted
      exact ⟨next, run⟩
  obtain ⟨next, run⟩ := ended
  obtain ⟨made, makes, all⟩ := pass.replay_makes value visits
  rw [run] at makes all
  obtain rfl := all rfl
  refine ⟨next, ?_, makes.elements⟩
  rw [step, follows pass, run]

namespace Template
open Output (Argument CreateCall)

mutual

/-- An element without what the policy refuses in it, at every depth. -/
def Element.pruned : Element → Element
  | ⟨name, attributes, children, selfClosing, span⟩ =>
    ⟨name, prunedAttributes attributes, prunedChildren children, selfClosing, span⟩

/-- Elements always stay, and so does every other expression that passes the policy. -/
def Expr.pruned : Expr → Option Expr
  | .element inner => some (.element inner.pruned)
  | expr => expr.check.toOption.map fun _ => expr

def AttributeValue.pruned : AttributeValue → Option AttributeValue
  | .absent => some .absent
  | .text value span => some (.text value span)
  | .expression expr => expr.pruned.map .expression
  | .empty _ => none

def Attribute.pruned : Attribute → Option Attribute
  | .named name value span => value.pruned.map fun value => .named name value span
  | .spread _ => none

def prunedAttributes : List Attribute → List Attribute
  | [] => []
  | item :: rest =>
    match item.pruned with
    | none => prunedAttributes rest
    | some kept => kept :: prunedAttributes rest

/-- Text stays, also where it is only layout, and so do braces around nothing. -/
def Child.pruned : Child → Option Child
  | .text value span => some (.text value span)
  | .element inner => some (.element inner.pruned)
  | .expression expr => expr.pruned.map .expression
  | .empty span => some (.empty span)
  | .unsupported .. => none

def prunedChildren : List Child → List Child
  | [] => []
  | child :: rest =>
    match child.pruned with
    | none => prunedChildren rest
    | some kept => kept :: prunedChildren rest

end

private theorem Element.attributes_pruned (element : Element) :
    element.pruned.attributes = prunedAttributes element.attributes := by
  cases element
  rw [Element.pruned]

private theorem Expr.pruned_of_not_element (expr : Expr) (plain : expr.element? = none) :
    expr.pruned = expr.check.toOption.map fun _ => expr := by
  cases expr
  case element inner => cases plain
  all_goals simp only [Expr.pruned]

/-- What pruning leaves of a node. A node that is left out holds no element and has no
image. One that stays keeps its elements, meets no violation and has the tidied image. -/
inductive Remains {Node Code : Type} (elements : Node → List Element) (visits : Node → List Visit)
    (image : Node → Option Code) (tidied : Code → Code) (node : Node) : Option Node → Prop where
  | dropped (noElements : elements node = []) (noImage : image node = none) :
      Remains elements visits image tidied node none
  | kept {left : Node} (sameElements : elements left = (elements node).map Element.pruned)
      (accepted : refusals (visits left) = []) (sameImage : image left = (image node).map tidied) :
      Remains elements visits image tidied node (some left)

/-- A node that only wraps another one remains as that one does. -/
theorem Remains.wrap {Node Code Outer OuterCode : Type} {elements : Node → List Element}
    {visits : Node → List Visit} {image : Node → Option Code} {tidied : Code → Code}
    {outerElements : Outer → List Element} {outerVisits : Outer → List Visit}
    {outerImage : Outer → Option OuterCode} {outerTidied : OuterCode → OuterCode}
    {node : Node} {left : Option Node} (remains : Remains elements visits image tidied node left)
    (wrap : Node → Outer) (wrapCode : Code → OuterCode)
    (elementsEq : ∀ node, outerElements (wrap node) = elements node)
    (visitsEq : ∀ node, outerVisits (wrap node) = visits node)
    (imageEq : ∀ node, outerImage (wrap node) = (image node).map wrapCode)
    (tidiedEq : ∀ code, outerTidied (wrapCode code) = wrapCode (tidied code)) :
    Remains outerElements outerVisits outerImage outerTidied (wrap node) (left.map wrap) := by
  cases remains with
  | dropped noElements noImage =>
    exact .dropped ((elementsEq node).trans noElements) (by rw [imageEq, noImage, Option.map_none])
  | @kept left sameElements accepted sameImage =>
    refine .kept ?_ ?_ ?_
    · rw [elementsEq, elementsEq, sameElements]
    · rw [visitsEq, accepted]
    · rw [imageEq, imageEq, sameImage, Option.map_map, Option.map_map]
      exact congrArg (Option.map · (image node)) (funext fun code => (tidiedEq code).symm)

private theorem Expr.remains_of_not_element (expr : Expr) (plain : expr.element? = none) :
    Remains Expr.elements Expr.visits Expr.image Argument.tidied expr expr.pruned := by
  have noElements := expr.elements_of_not_element plain
  have visits := expr.visits_of_not_element plain
  have image := expr.image_of_not_element plain
  rw [expr.pruned_of_not_element plain]
  cases checked : expr.check with
  | error violation =>
    rw [checked] at image
    exact .dropped noElements image
  | ok reference =>
    rw [checked] at image visits
    refine .kept ?_ ?_ ?_
    · rw [noElements, List.map_nil]
    · rw [visits]
      rfl
    · rw [image]
      simp only [Except.toOption, Option.map_some, Argument.tidied]

private theorem Expr.pruned_eq_none_iff (expr : Expr) : expr.pruned = none ↔ expr.image = none := by
  cases kind : expr.element? with
  | some inner =>
    cases expr <;> cases kind
    rw [Expr.pruned, Expr.image]
    exact iff_of_false nofun nofun
  | none =>
    rw [expr.pruned_of_not_element kind, expr.image_of_not_element kind, Option.map_eq_none_iff,
      Option.map_eq_none_iff]

/-- An attribute stays exactly if it has an image. -/
theorem Attribute.pruned_eq_none_iff (item : Attribute) : item.pruned = none ↔ item.image = none := by
  cases item with
  | spread span =>
    rw [Attribute.pruned, Attribute.image]
    exact iff_of_true rfl rfl
  | named name value span =>
    rw [Attribute.pruned, Attribute.image, Option.map_eq_none_iff, Option.map_eq_none_iff]
    cases value with
    | absent => simp only [AttributeValue.pruned, AttributeValue.image, reduceCtorEq]
    | text value place => simp only [AttributeValue.pruned, AttributeValue.image, reduceCtorEq]
    | empty place => simp only [AttributeValue.pruned, AttributeValue.image]
    | expression expr =>
      rw [AttributeValue.pruned, AttributeValue.image, Option.map_eq_none_iff]
      exact expr.pruned_eq_none_iff

private theorem prunedAttributes_eq_nil_iff (attributes : List Attribute) :
    prunedAttributes attributes = [] ↔ imagesOfAttributes attributes = [] := by
  induction attributes with
  | nil => simp only [prunedAttributes, imagesOfAttributes]
  | cons item rest ih =>
    rw [prunedAttributes, imagesOfAttributes]
    cases image : item.image with
    | none =>
      rw [item.pruned_eq_none_iff.mpr image]
      exact ih
    | some property =>
      cases left : item.pruned with
      | none => rw [item.pruned_eq_none_iff.mp left] at image; cases image
      | some kept => exact iff_of_false nofun nofun

/-- Tidying turns the attributes that an element has into those that it keeps. -/
theorem tidiedAttributes_images (attributes : List Attribute) :
    Output.tidiedAttributes
        (if attributes.isEmpty then none else some (imagesOfAttributes attributes)) =
      if (prunedAttributes attributes).isEmpty then none
      else some (Output.tidiedProperties (imagesOfAttributes attributes)) := by
  have kept := prunedAttributes_eq_nil_iff attributes
  simp only [List.isEmpty_iff, kept]
  cases attributes with
  | nil => simp only [imagesOfAttributes, if_true, Output.tidiedAttributes]
  | cons item rest =>
    rw [if_neg (List.cons_ne_nil item rest)]
    cases imagesOfAttributes (item :: rest) with
    | nil => rw [if_pos rfl, Output.tidiedAttributes]
    | cons first others =>
      rw [if_neg (List.cons_ne_nil first others), Output.tidiedAttributes, Output.tidiedProperties]

-- Only what is no element is left out, so every element stays where it is.
mutual

private theorem Element.remains : (element : Element) →
    element.pruned.elements = element.elements.map Element.pruned ∧
      refusals element.pruned.visits = [] ∧ element.pruned.image = element.image.tidied
  | ⟨name, attributes, children, selfClosing, span⟩ => by
    obtain ⟨items, itemsAccepted, properties⟩ := attributes_remain attributes
    obtain ⟨content, contentAccepted, arguments⟩ := children_remain children
    refine ⟨?_, ?_, ?_⟩
    · simp only [Element.pruned, Element.elements, List.map_cons, List.map_append, items, content]
    · simp only [Element.pruned, Element.visits, refusals_entered, refusals_append, itemsAccepted,
        contentAccepted, List.append_nil]
    · rw [Element.pruned, Element.image, Element.image, CreateCall.tidied, properties, arguments,
        tidiedAttributes_images]

private theorem Expr.remains : (expr : Expr) →
    Remains Expr.elements Expr.visits Expr.image Argument.tidied expr expr.pruned
  | .element inner => by
    obtain ⟨sameElements, accepted, sameImage⟩ := inner.remains
    rw [Expr.pruned]
    refine .kept ?_ ?_ ?_
    · rw [Expr.elements, Expr.elements, sameElements]
    · rw [Expr.visits, accepted]
    · rw [Expr.image, Expr.image, sameImage, Option.map_some, Argument.tidied]
  | .identifier .. | .literal _ | .member .. | .call _ | .binary .. | .unary .. | .conditional _
  | .assignment _ | .arrow _ | .template _ | .unsupported .. =>
    Expr.remains_of_not_element _ rfl

private theorem AttributeValue.remains : (value : AttributeValue) →
    Remains AttributeValue.elements AttributeValue.visits AttributeValue.image Argument.tidied
      value value.pruned
  | .absent | .text .. => by
    rw [AttributeValue.pruned]
    refine .kept ?_ ?_ ?_
    · rw [AttributeValue.elements, List.map_nil]
    · rw [AttributeValue.visits, refusals_nil]
    · rw [AttributeValue.image, Option.map_some, Argument.tidied]
  | .expression expr => by
    rw [AttributeValue.pruned]
    refine expr.remains.wrap AttributeValue.expression id ?_ ?_ ?_ ?_
    · exact fun _ => by rw [AttributeValue.elements]
    · exact fun _ => by rw [AttributeValue.visits]
    · exact fun _ => by rw [AttributeValue.image, Option.map_id_fun, id]
    · exact fun _ => rfl
  | .empty _ => by
    rw [AttributeValue.pruned]
    exact .dropped (by rw [AttributeValue.elements]) (by rw [AttributeValue.image])

private theorem Attribute.remains : (item : Attribute) →
    Remains Attribute.elements Attribute.visits Attribute.image Output.Property.tidied
      item item.pruned
  | .named name value span => by
    rw [Attribute.pruned]
    refine value.remains.wrap (Attribute.named name · span)
      (Output.Property.mk (Output.Key.ofName name)) ?_ ?_ ?_ ?_
    · exact fun _ => by rw [Attribute.elements]
    · exact fun _ => by rw [Attribute.visits]
    · exact fun _ => by rw [Attribute.image]
    · exact fun _ => by rw [Output.Property.tidied]
  | .spread _ => by
    rw [Attribute.pruned]
    exact .dropped (by rw [Attribute.elements]) (by rw [Attribute.image])

private theorem attributes_remain : (attributes : List Attribute) →
    elementsOfAttributes (prunedAttributes attributes) =
        (elementsOfAttributes attributes).map Element.pruned ∧
      refusals (visitsOfAttributes (prunedAttributes attributes)) = [] ∧
      imagesOfAttributes (prunedAttributes attributes) =
        Output.tidiedProperties (imagesOfAttributes attributes)
  | [] => by
    simp only [prunedAttributes, elementsOfAttributes, visitsOfAttributes, imagesOfAttributes,
      Output.tidiedProperties, List.map_nil, refusals_nil, and_self]
  | item :: rest => by
    obtain ⟨others, othersAccepted, otherImages⟩ := attributes_remain rest
    have first := item.remains
    simp only [prunedAttributes, elementsOfAttributes, imagesOfAttributes, List.map_append]
    generalize item.pruned = left at first ⊢
    cases first with
    | dropped noElements noImage =>
      simp only [noElements, noImage]
      exact ⟨others, othersAccepted, otherImages⟩
    | kept sameElements accepted sameImage =>
      simp only [elementsOfAttributes, visitsOfAttributes, imagesOfAttributes, refusals_append,
        sameElements, accepted, sameImage, others, othersAccepted, otherImages]
      refine ⟨trivial, rfl, ?_⟩
      cases item.image with
      | none => rfl
      | some property => simp only [Option.map_some, Output.tidiedProperties]

private theorem Child.remains : (child : Child) →
    Remains Child.elements Child.visits Child.image Argument.tidied child child.pruned
  | .text value _ => by
    rw [Child.pruned]
    refine .kept ?_ ?_ ?_
    · rw [Child.elements, List.map_nil]
    · rw [Child.visits, refusals_nil]
    · rw [Child.image]
      split
      · rfl
      · rw [Option.map_some, Argument.tidied]
  | .element inner => by
    obtain ⟨sameElements, accepted, sameImage⟩ := inner.remains
    rw [Child.pruned]
    refine .kept ?_ ?_ ?_
    · rw [Child.elements, Child.elements, sameElements]
    · rw [Child.visits, accepted]
    · rw [Child.image, Child.image, sameImage, Option.map_some, Argument.tidied]
  | .expression expr => by
    rw [Child.pruned]
    refine expr.remains.wrap Child.expression id ?_ ?_ ?_ ?_
    · exact fun _ => by rw [Child.elements]
    · exact fun _ => by rw [Child.visits]
    · exact fun _ => by rw [Child.image, Option.map_id_fun, id]
    · exact fun _ => rfl
  | .empty _ => by
    rw [Child.pruned]
    refine .kept ?_ ?_ ?_
    · rw [Child.elements, List.map_nil]
    · rw [Child.visits, refusals_nil]
    · rw [Child.image, Option.map_none]
  | .unsupported .. => by
    rw [Child.pruned]
    exact .dropped (by rw [Child.elements]) (by rw [Child.image])

private theorem children_remain : (children : List Child) →
    elementsOfChildren (prunedChildren children) =
        (elementsOfChildren children).map Element.pruned ∧
      refusals (visitsOfChildren (prunedChildren children)) = [] ∧
      imagesOfChildren (prunedChildren children) =
        Output.tidiedChildren (imagesOfChildren children)
  | [] => by
    simp only [prunedChildren, elementsOfChildren, visitsOfChildren, imagesOfChildren,
      Output.tidiedChildren, List.map_nil, refusals_nil, and_self]
  | child :: rest => by
    obtain ⟨others, othersAccepted, otherImages⟩ := children_remain rest
    have first := child.remains
    simp only [prunedChildren, elementsOfChildren, imagesOfChildren, List.map_append]
    generalize child.pruned = left at first ⊢
    cases first with
    | dropped noElements noImage =>
      simp only [noElements, noImage]
      exact ⟨others, othersAccepted, otherImages⟩
    | kept sameElements accepted sameImage =>
      simp only [elementsOfChildren, visitsOfChildren, imagesOfChildren, refusals_append,
        sameElements, accepted, sameImage, others, othersAccepted, otherImages]
      refine ⟨trivial, rfl, ?_⟩
      cases child.image with
      | none => rfl
      | some argument => simp only [Option.map_some, Output.tidiedChildren]

end

private theorem Element.attributes_image (element : Element) :
    element.image.attributes = some [] ↔
      element.attributes ≠ [] ∧ element.pruned.attributes = [] := by
  rw [element.attributes_pruned, prunedAttributes_eq_nil_iff]
  obtain ⟨name, attributes, children, selfClosing, span⟩ := element
  rw [Element.image]
  cases attributes with
  | nil => exact iff_of_false nofun fun emptied => emptied.1 rfl
  | cons item rest => simp only [List.isEmpty_cons, Bool.false_eq_true, if_false, Option.some.injEq,
      ne_eq, reduceCtorEq, not_false_eq_true, true_and]

/-- Violations are recovered from one node at a time. The collecting mode makes of every
element what the first mode, which then meets no violation, makes of the element without
its refused nodes. The two calls differ in the elements that lost all their attributes and
there only: the one has an empty object where the other has none. Both modes count the
same elements. -/
theorem Element.recovers (element : Element) :
    ∃ call clean collected passed,
      Pass.step element.compile (Pass.fresh .collect) = (.ok call, collected) ∧
      Pass.step element.pruned.compile (Pass.fresh .first) = (.ok clean, passed) ∧
      call.tidied = clean ∧
      List.Forall₂ (fun inner emitted => emitted.tag = inner.name ∧ emitted.span = inner.span ∧
          (emitted.attributes = some [] ↔ inner.attributes ≠ [] ∧ inner.pruned.attributes = []))
        element.elements call.calls ∧
      collected.elements = passed.elements := by
  obtain ⟨sameElements, accepted, sameImage⟩ := element.remains
  obtain ⟨collected, run, counted⟩ := Pass.step_unstopped element.compile_follows
    (Pass.fresh .collect) (.inl rfl)
  obtain ⟨passed, cleanRun, cleanCounted⟩ := Pass.step_unstopped element.pruned.compile_follows
    (Pass.fresh .first) (.inr accepted)
  refine ⟨element.image, element.pruned.image, collected, passed, run, cleanRun, sameImage.symm, ?_, ?_⟩
  · rw [element.calls_image, List.forall₂_map_right_iff, List.forall₂_same]
    intro inner _
    exact ⟨inner.tag_image, inner.span_image, inner.attributes_image⟩
  · rw [counted, cleanCounted, element.entered_visits, element.pruned.entered_visits, sameElements,
      List.length_map, List.length_map, List.length_map]
    rfl

-- All attributes are refused and leave an empty object, and no child is lost with the refused one.
example :
    (Pass.step (Element.compile ⟨"p", [.spread {}, .named "id" (.empty {}) {}],
        [.expression (.call {}), .element ⟨"br", [], [], true, {}⟩, .text "or" {}], false, {}⟩)
      (Pass.fresh .collect)).1 =
      .ok ⟨"p", some [], [.create ⟨"br", none, [], {}⟩, .string "or"], {}⟩ := rfl

end Template

end LogicFree
