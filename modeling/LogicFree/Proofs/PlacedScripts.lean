import LogicFree.Proofs.NumberReading
import LogicFree.Proofs.SourceSpelling
import LogicFree.Script.Reader

/-! Scripts whose trees say where their numbers and tags stand. A place is one of the text
that was read, which begins behind the mark at the front of a source; what is cut out of
the source there is another matter. That a reader gives such trees is a law that the
compiler relies on. -/

namespace LogicFree.Script

/-- A number literal begins at a place, has this value, and goes on to the end of the place. -/
def NumberStands (text : List Char) (span : Span) (bits : UInt64) : Prop :=
  ∃ (place : Place text) (raw rest : List Char),
    place.pos = span.start ∧ span.stop = span.start + Text.byteLength raw ∧
    place.chars = raw ++ rest ∧ NumberLiteral.read? place.chars = some (.double bits, rest)

/-- How the name in a tag is written in the text. -/
def TagName.StandsAt (here rest : Input) : TagName → Prop
  | .plain name _ => TagWord here name rest
  | .namespaced space name _ => ∃ middle, TagWord here space middle ∧
      middle.trimmed.chars.head? = some ':' ∧
      TagWord (middle.trimmed.drop 1).trimmed name rest
  | .dotted parts span => TagWords here parts rest ∧ 2 ≤ parts.length ∧
      span = ⟨here.pos, rest.pos⟩

/-- A bracket opens an element at a place, and the name stands behind it. -/
def TagName.PlacedAt (text : List Char) (start : Nat) (tag : TagName) : Prop :=
  ∃ (opening : Place text) (rest : Input),
    opening.pos = start ∧ opening.chars.head? = some '<' ∧
    tag.StandsAt (opening.drop 1).trimmed rest ∧ TagEnds rest

variable (text : List Char)

mutual

/-- Every number of an expression and every tag stands where the tree says. -/
def Expr.Placed : Expr → Prop
  | .number bits span => NumberStands text span bits
  | .paren inner _ => inner.Placed
  | .member object property _ => object.Placed ∧ property.Placed
  | .element inner => inner.Placed
  | .identifier .. | .string .. | .boolean .. | .binary .. | .unary .. | .other .. => True

def Property.Placed : Property → Prop
  | .computed index => index.Placed
  | .named .. | .hidden _ => True

def Element.Placed : Element → Prop
  | ⟨name, attributes, children, _, span⟩ =>
    name.PlacedAt text span.start ∧ attributesPlaced attributes ∧ childrenPlaced children

def Attribute.Placed : Attribute → Prop
  | .named _ value _ => value.Placed
  | .spread _ => True

def AttributeValue.Placed : AttributeValue → Prop
  | .expression expr => expr.Placed
  | .element inner => inner.Placed
  | .absent | .string .. | .empty _ | .fragment _ => True

def attributesPlaced : List Attribute → Prop
  | [] => True
  | item :: rest => item.Placed ∧ attributesPlaced rest

def Child.Placed : Child → Prop
  | .expression expr => expr.Placed
  | .element inner => inner.Placed
  | .text .. | .empty _ | .fragment _ | .spread _ => True

def childrenPlaced : List Child → Prop
  | [] => True
  | child :: rest => child.Placed ∧ childrenPlaced rest

end

def Declarator.Placed (declarator : Declarator) : Prop :=
  ∀ expr ∈ declarator.init, expr.Placed text

def Statement.Placed : Statement → Prop
  | .expression expr _ => expr.Placed text
  | .declaration _ _ declarators _ => ∀ declarator ∈ declarators, declarator.Placed text
  | .moduleItem .. | .empty _ | .other .. => True

@[simp] theorem Statement.placed_other (form : StatementForm) (span : Span) :
    (Statement.other form span).Placed text := trivial

@[simp] theorem Statement.placed_moduleItem (form : ModuleForm) (span : Span) :
    (Statement.moduleItem form span).Placed text := trivial

@[simp] theorem Statement.placed_empty (span : Span) :
    (Statement.empty span).Placed text := trivial

private theorem attributesPlaced_iff (attributes : List Attribute) :
    attributesPlaced text attributes ↔ ∀ item ∈ attributes, item.Placed text := by
  induction attributes with
  | nil => simp [attributesPlaced]
  | cons item rest ih => rw [attributesPlaced, List.forall_mem_cons, ih]

private theorem childrenPlaced_iff (children : List Child) :
    childrenPlaced text children ↔ ∀ child ∈ children, child.Placed text := by
  induction children with
  | nil => simp [childrenPlaced]
  | cons child rest ih => rw [childrenPlaced, List.forall_mem_cons, ih]

@[simp] theorem childrenPlaced_append (front back : List Child) :
    childrenPlaced text (front ++ back) ↔
      childrenPlaced text front ∧ childrenPlaced text back := by
  simp only [childrenPlaced_iff, List.forall_mem_append]

@[simp] theorem attributesPlaced_reverse (attributes : List Attribute) :
    attributesPlaced text attributes.reverse ↔ attributesPlaced text attributes := by
  simp only [attributesPlaced_iff, List.mem_reverse]

@[simp] theorem childrenPlaced_reverse (children : List Child) :
    childrenPlaced text children.reverse ↔ childrenPlaced text children := by
  simp only [childrenPlaced_iff, List.mem_reverse]

/-- In every tree of a reader the numbers and tags stand where the tree says, counted from
behind the mark at the front of the source. -/
def Reader.KeepsPlaces (reader : Reader) : Prop :=
  ∀ dialect source script, reader dialect source = .ok script →
    ∀ statement ∈ script.body, statement.Placed (withoutMark source.toList)

end LogicFree.Script
