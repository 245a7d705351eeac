import LogicFree.Proofs.TokenPlaces

/-! Markup that is read from a source is placed in it, if the rules one level further in
yield only what is placed there. The tag of an element is found again behind its bracket,
and the first token after it shows that the tag has ended. -/

namespace LogicFree.Script

variable {source : List Char}

def Markup.Placed (source : List Char) : Markup → Prop
  | .element inner => inner.Placed source
  | .fragment _ => True

/-- The rules whose trees reach the template yield only what is placed in the source.
Markup has to begin behind the bracket that opens it. -/
structure Grammar.Places (g : Grammar source) : Prop where
  assignment : ∀ context cursor,
    Parse.Ensures cursor (g.assignment context) fun operand _ => operand.expr.Placed source
  statement : ∀ context cursor,
    Parse.Ensures cursor (g.statement context) fun statement _ => statement.Placed source
  moduleItem : ∀ context cursor,
    Parse.Ensures cursor (g.moduleItem context) fun statement _ => statement.Placed source
  markup : ∀ context cursor (opening : Place source), opening.chars.head? = some '<' →
    cursor.Follows (opening.drop 1) →
    Parse.Ensures cursor (g.markup context opening.pos) fun found _ => found.1.Placed source

namespace Grammar

open Parse

variable {g : Grammar source} (places : g.Places) (context : Context) (cursor : Cursor source)

theorem plain_placed {operand : Operand} (placed : operand.expr.Placed source) :
    Ensures cursor (plain operand) fun expr _ => expr.Placed source := by
  simp [plain, placed]

/-- One bracket is passed, and markup begins behind it. -/
theorem openAngle_ensures :
    Ensures cursor openAngle fun _ next =>
      cursor.here.chars.head? = some '<' ∧ next.Follows (cursor.here.drop 1) := by
  simp only [openAngle, ensures_bind, ensures_get]
  split
  next rest opens =>
    refine (resume_ensures cursor _).mono fun _ next follows => ⟨?_, follows⟩
    rw [opens, List.head?_cons]
  next => simp

include places

theorem single_placed : Ensures cursor (g.single context) fun expr _ => expr.Placed source := by
  rw [single, ensures_bind]
  exact (places.assignment context cursor).mono fun operand next placed => plain_placed next placed

theorem expression_placed :
    Ensures cursor (g.expression context) fun expr _ => expr.Placed source := by
  simp only [expression, ensures_bind, ensures_start]
  refine (single_placed places context cursor).mono fun first next placed => ?_
  simp [placed, Expr.Placed]

omit places in
private theorem quoted_placed (quote : Char) :
    Ensures cursor (attributeValue.quoted cursor quote) fun value _ => value.Placed source := by
  unfold attributeValue.quoted
  dsimp only
  split <;> simp [AttributeValue.Placed]

private theorem attributeValue_placed :
    Ensures cursor (g.attributeValue context) fun value _ => value.Placed source := by
  simp only [attributeValue, ensures_bind, ensures_get]
  split
  · exact quoted_placed cursor _
  · exact quoted_placed cursor _
  · simp only [ensures_bind, ensures_advance]
    refine (expression_placed places _ _).mono fun expr next placed => ?_
    simp [AttributeValue.Placed, placed]
  · simp only [ensures_bind]
    refine (openAngle_ensures cursor).mono fun _ middle opened => ?_
    refine (places.markup context middle cursor.here opened.1 opened.2).mono ?_
    rintro ⟨found, after⟩ next placed
    cases found with
    | element inner =>
      rw [Markup.Placed] at placed
      simp [AttributeValue.Placed, placed]
    | fragment span => simp [AttributeValue.Placed]
  · simp

private theorem attributeRule_placed :
    Ensures cursor (g.attributeRule context) fun item _ => item.Placed source := by
  simp [attributeRule, Attribute.Placed, AttributeValue.Placed, attributeValue_placed places]

private theorem attributes_placed :
    Ensures cursor (g.attributes context) fun items _ => attributesPlaced source items := by
  simp only [attributes, ensures_bind, ensures_pure, attributesPlaced_reverse]
  refine .repeated_keeps (attributesPlaced source) trivial ?_
  intro items current placed
  simp [attributesPlaced, placed, attributeRule_placed places]

omit places in
private theorem textChild?_placed (place : Place source) :
    Ensures cursor (textChild? place) fun found _ => childrenPlaced source found.1 := by
  simp only [textChild?, ensures_bind, ensures_get]
  split <;> simp [childrenPlaced, Child.Placed]

private theorem braceChild_placed (start : Nat) :
    Ensures cursor (g.braceChild context start) fun found _ => found.1.Placed source := by
  simp only [braceChild, ensures_bind, ensures_ite]
  refine .of_forall fun _ opened => ?_
  simp only [ensures_isMark]
  split
  · simp [Child.Placed]
  refine .of_forall fun spread next => ?_
  split
  · simp [Child.Placed]
  refine (expression_placed places _ next).mono fun expr last placed => ?_
  simp [Child.Placed, placed]

private theorem nextChild_placed {state : Children source} (placed : childrenPlaced source state.found) :
    Ensures cursor (g.nextChild context state) fun found _ =>
      ∀ further ∈ found, childrenPlaced source further.found := by
  simp only [nextChild, ensures_bind, ensures_ite]
  split
  · simp
  refine (textChild?_placed _ _).mono ?_
  rintro ⟨text, place⟩ next texts
  dsimp only at texts ⊢
  split
  next rest opens =>
    simp only [ensures_bind, ensures_ite, ensures_isMark]
    refine (resume_ensures next (place.skip 1)).mono fun _ inside follows => ?_
    split
    · simp [texts, placed]
    refine (places.markup context inside place (by rw [opens]; rfl) follows).mono ?_
    rintro ⟨found, after⟩ last markup
    cases found with
    | element inner =>
      rw [Markup.Placed] at markup
      simp [childrenPlaced, Child.Placed, markup, texts, placed]
    | fragment span => simp [childrenPlaced, Child.Placed, texts, placed]
  · simp only [ensures_bind]
    refine .of_forall fun _ next => ?_
    refine (braceChild_placed places context next _).mono ?_
    rintro ⟨child, after⟩ last child
    simp [childrenPlaced, child, texts, placed]
  · simp

private theorem children_placed (place : Place source) :
    Ensures cursor (g.children context place) fun children _ => childrenPlaced source children := by
  simp only [children, ensures_bind, ensures_pure, childrenPlaced_reverse]
  refine (Ensures.repeated_keeps (fun (state : Children source) => childrenPlaced source state.found)
    ?_ ?_).mono ?_
  · exact trivial
  · intro state current placed
    exact nextChild_placed places context current placed
  · intro state next placed
    simp [placed]

omit places

@[simp] theorem ensures_atCloseAngle (post : Bool → Cursor source → Prop) :
    Ensures cursor atCloseAngle post ↔ post (cursor.here.chars.head? = some '>') cursor := by
  simp [atCloseAngle]

/-- A word of a tag begins with a letter or with the code of one. -/
theorem readTagName?_opens {bound : Nat} {input rest : Input} {name : Name}
    (found : readTagName? bound input = some (name, rest)) :
    ∀ c ∈ input.chars.head?, c = '\\' ∨ isNameStart c = true := by
  obtain ⟨⟨first, coded, after⟩, opened, -⟩ := Option.bind_eq_some_iff.mp found
  unfold readNameChar? at opened
  split at opened
  next opens =>
    rw [opens]
    rintro c ⟨⟩
    exact .inl rfl
  next opens =>
    rw [opens]
    rintro c ⟨⟩
    split at opened <;> cases opened
    exact .inr ‹_›
  next => cases opened

/-- The current token goes on with no tag. -/
def EndsTag (cursor : Cursor source) : Prop := ∀ c ∈ cursor.here.chars.head?, c ≠ '.' ∧ c ≠ ':'

private theorem endsTag_of_mark {text : String} {c : Char} (mark : cursor.token = .mark text)
    (one : text.toList = [c]) (other : c ≠ '.' ∧ c ≠ ':') : EndsTag cursor := by
  rw [EndsTag, (cursor.mark_stands mark one).1]
  rintro _ ⟨⟩
  exact other

private theorem tagWord_endsTag : Ensures cursor tagWord fun _ _ => EndsTag cursor := by
  refine (tagWord_ensures cursor).mono ?_
  rintro word next ⟨rest, ⟨bound, escaped, -, found⟩, -⟩ c member
  have opens := readTagName?_opens found c member
  constructor
  all_goals
    rintro rfl
    revert opens
    decide

private theorem attributeRule_endsTag :
    Ensures cursor (g.attributeRule context) fun _ _ => EndsTag cursor := by
  simp only [attributeRule, ensures_bind, ensures_eatMark]
  split
  next brace =>
    have ends := endsTag_of_mark cursor (c := '\x7b') brace rfl (by decide)
    simp [ends]
  next =>
    simp only [Bool.false_eq_true, if_false, ensures_bind]
    refine (tagWord_endsTag cursor).mono fun word next ends => ?_
    simp [ends]

/-- What follows a tag is an attribute or its end. -/
theorem attributes_endsTag :
    Ensures cursor (g.attributes context) fun _ _ => EndsTag cursor := by
  simp only [attributes, ensures_bind, ensures_pure]
  -- The first repetition shows it, whether it is the last one or not.
  refine .repeated (fun _ current => current = cursor ∨ EndsTag cursor) _ (.inl rfl) ?_
  rintro items current (rfl | ends)
  · simp only [ensures_bind, ensures_atCloseAngle, ensures_isMark, ensures_ite, ensures_pure]
    split
    next closing =>
      rw [Bool.or_eq_true, decide_eq_true_eq, beq_iff_eq] at closing
      obtain angle | slash := closing
      · rw [EndsTag, angle]
        rintro _ ⟨⟩
        decide
      · exact endsTag_of_mark current (c := '/') slash rfl (by decide)
    next =>
      exact (attributeRule_endsTag context current).mono fun item next ends => .inr ends
  · refine .of_forall fun found next => ?_
    cases found with
    | none => exact ends
    | some items => exact .inr ends

private theorem elementTail_placed (places : g.Places) (start : Nat) (name : TagName)
    (tag : EndsTag cursor → name.PlacedAt source start) :
    Ensures cursor (g.elementTail context start name) fun found _ => found.1.Placed source := by
  simp only [elementTail, ensures_bind, ensures_ite]
  refine ((attributes_placed places context cursor).and (attributes_endsTag context cursor)).mono ?_
  rintro items next ⟨placed, ends⟩
  refine .of_forall fun closing next => ?_
  split
  · simp [Markup.Placed, Element.Placed, placed, tag ends, childrenPlaced]
  refine .of_forall fun place next => ?_
  refine (children_placed places context next place).mono fun children last parts => ?_
  simp [Markup.Placed, Element.Placed, placed, tag ends, parts]

theorem markupRule_placed (places : g.Places) (opening : Place source)
    (bracket : opening.chars.head? = some '<') (follows : cursor.Follows (opening.drop 1)) :
    Ensures cursor (g.markupRule context opening.pos) fun found _ => found.1.Placed source := by
  simp only [markupRule, ensures_bind, ensures_ite, ensures_atCloseAngle]
  split
  · simp [fragment, Markup.Placed]
  refine (tagName_ensures cursor).mono ?_
  rintro name next ⟨rest, stands, further⟩
  have tag (ends : EndsTag next) : name.PlacedAt source opening.pos := by
    refine ⟨opening, rest, rfl, bracket, ?_, ?_⟩
    · rwa [← follows.here_eq]
    · rw [TagEnds, ← further.here_eq]
      exact ends
  simp only [ensures_isMark]
  split
  next types =>
    rw [Bool.and_eq_true, beq_iff_eq] at types
    have ends := endsTag_of_mark next (c := '<') types.2 rfl (by decide)
    exact .of_forall fun _ last => elementTail_placed context last places _ name fun _ => tag ends
  next => exact elementTail_placed context next places _ name tag

end Grammar

end LogicFree.Script
