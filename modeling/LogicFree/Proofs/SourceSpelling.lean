import LogicFree.Script.Escape
import LogicFree.Script.Number
import LogicFree.Script.ToTemplate

/-! How the numbers and the tags of a template stand in its source. A number stands at its
place as one literal, and a tag stands behind the bracket that opens its element. Both are
said on the text alone, whatever was read before. -/

namespace LogicFree

namespace Template

/-- The parts of a template that have a text of their own: literals and elements. -/
inductive Node where
  | literal (value : Literal)
  | element (element : Element)

mutual

def Expr.nodes : Expr → List Node
  | .literal value => [.literal value]
  | .member object property _ => object.nodes ++ property.nodes
  | .element inner => inner.nodes
  | .identifier .. | .call _ | .binary .. | .unary .. | .conditional _ | .assignment _ | .arrow _
  | .template _ | .unsupported .. => []

def Property.nodes : Property → List Node
  | .computed index => index.nodes
  | .named .. | .hidden _ => []

def Element.nodes : Element → List Node
  | ⟨name, attributes, children, selfClosing, span⟩ =>
    .element ⟨name, attributes, children, selfClosing, span⟩ ::
      (nodesOfAttributes attributes ++ nodesOfChildren children)

def AttributeValue.nodes : AttributeValue → List Node
  | .expression expr => expr.nodes
  | .absent | .text .. | .empty _ => []

def Attribute.nodes : Attribute → List Node
  | .named _ value _ => value.nodes
  | .spread _ => []

def nodesOfAttributes : List Attribute → List Node
  | [] => []
  | item :: rest => item.nodes ++ nodesOfAttributes rest

def Child.nodes : Child → List Node
  | .element inner => inner.nodes
  | .expression expr => expr.nodes
  | .text .. | .empty _ | .unsupported .. => []

def nodesOfChildren : List Child → List Node
  | [] => []
  | child :: rest => child.nodes ++ nodesOfChildren rest

end

def Statement.nodes (statement : Statement) : List Node :=
  statement.sites.flatMap Expr.nodes

def Program.nodes (program : Program) : List Node :=
  program.body.flatMap Statement.nodes

end Template

namespace Script

/-- What is left of an input after the blanks and comments at its front. -/
def Input.trimmed (input : Input) : Input :=
  (skipTrivia .between input.chars input.pos false).input

/-- A word of a tag at the front of an input, up to the first character that is no part
of it. -/
def TagWord (here : Input) (name : String) (rest : Input) : Prop :=
  ∃ bound escaped, here.chars.length ≤ bound ∧
    readTagName? bound here = some (⟨name, escaped⟩, rest)

/-- Words with points between them. Blanks and comments may stand around a point. -/
inductive TagWords : Input → List String → Input → Prop where
  | first {here rest : Input} {name : String} (word : TagWord here name rest) :
      TagWords here [name] rest
  | point {here middle rest : Input} {names : List String} {name : String}
      (front : TagWords here names middle) (point : middle.trimmed.chars.head? = some '.')
      (word : TagWord (middle.trimmed.drop 1).trimmed name rest) :
      TagWords here (names ++ [name]) rest

/-- A tag at the front of an input, with the name that it gives: a word, two words with a
colon between them, or several with points between them. A dotted name is everything that
is written, from the first word to the last. -/
inductive Tag : Input → String → Input → Prop where
  | plain {here rest : Input} {name : String} (word : TagWord here name rest) : Tag here name rest
  | namespaced {here middle rest : Input} {space name : String} (first : TagWord here space middle)
      (colon : middle.trimmed.chars.head? = some ':')
      (second : TagWord (middle.trimmed.drop 1).trimmed name rest) :
      Tag here (space ++ ":" ++ name) rest
  | dotted {here rest : Input} {names : List String} {written : List Char}
      (words : TagWords here names rest) (several : 2 ≤ names.length)
      (whole : here.chars = written ++ rest.chars) : Tag here (String.ofList written) rest

/-- No further word follows a tag. -/
def TagEnds (rest : Input) : Prop :=
  ∀ c ∈ rest.trimmed.chars.head?, c ≠ '.' ∧ c ≠ ':'

instance (rest : Input) : Decidable (TagEnds rest) :=
  decidable_of_iff (rest.trimmed.chars.head?.all fun c => c != '.' && c != ':') (by simp [TagEnds, Option.all_eq_true])

/-- A text that is cut out of a source at a place, and is there the whole of a number
literal. On its own it is the same literal. -/
def NumberAt (source : List Char) (span : Span) (bits : UInt64) (raw : List Char) : Prop :=
  ∃ (place : Place source) (rest : List Char),
    place.pos = span.start ∧ span.stop = span.start + Text.byteLength raw ∧
    place.chars = raw ++ rest ∧ NumberLiteral.read? place.chars = some (.double bits, rest) ∧
    NumberLiteral.read? raw = some (.double bits, [])

/-- A bracket that opens an element at a place, and the tag behind it. -/
def TagAt (source : List Char) (start : Nat) (name : String) : Prop :=
  ∃ (opening : Place source) (rest : Input),
    opening.pos = start ∧ opening.chars.head? = some '<' ∧
    Tag (opening.drop 1).trimmed name rest ∧ TagEnds rest

end Script

/-- A number carries its literal and an element its tag, as they stand in a source. -/
def Template.Node.SpelledIn (source : List Char) : Template.Node → Prop
  | .literal (.number bits raw span) => Script.NumberAt source span bits raw.toList
  | .literal (.string ..) | .literal (.boolean ..) => True
  | .element inner => Script.TagAt source inner.span.start inner.name

namespace Script

variable {source : List Char}

theorem Input.trimmed_ahead (input : Input) : input.Ahead input.trimmed := skipTrivia_ahead ..

theorem TagWord.ahead {here rest : Input} {name : String} (word : TagWord here name rest) :
    here.Ahead rest := by
  obtain ⟨bound, escaped, -, found⟩ := word
  exact readNameWith?_ahead found

theorem TagWords.ahead {here rest : Input} {names : List String} (words : TagWords here names rest) :
    here.Ahead rest := by
  induction words with
  | first word => exact word.ahead
  | @point middle rest names name front point word ih =>
    have passed := (middle.trimmed_ahead.trans (middle.trimmed.drop_ahead 1)).trans
      (middle.trimmed.drop 1).trimmed_ahead
    exact ih.trans (passed.trans word.ahead)

/-- A text that stands at a place is what is cut out there. -/
theorem Place.slice_eq (place : Place source) {text rest : List Char}
    (stands : place.chars = text ++ rest) :
    slice (String.ofList source) ⟨place.pos, place.pos + Text.byteLength text⟩ =
      String.ofList text := by
  obtain ⟨passed, split, moved⟩ := place.ahead
  have cut := Text.slice?_append passed text rest
  rw [List.append_assoc, ← stands, ← split] at cut
  rw [slice, String.toList_ofList, moved, Nat.zero_add, cut]
  rfl

end Script

end LogicFree
