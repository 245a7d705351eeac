import Mathlib.Logic.ExistsUnique
import LogicFree.Output.Printer
import LogicFree.Proofs.SourceOrder

/-! The check of a single expression, decided by one node. Named reads are peeled off
an expression until something else is left, its base. The base alone says whether the
whole may be read, and if not, what is reported and where. Beside it stand the two
texts of a reference, its path and its print. -/

namespace LogicFree

namespace Template
open Output (Reference)

structure Read where
  name : String
  place : Span
  span : Span
deriving Repr, DecidableEq

def Expr.read (object : Expr) (layer : Read) : Expr :=
  .member object (.named layer.name layer.place) layer.span

/-- An expression with reads off it, the innermost first. -/
def Expr.extend (base : Expr) (layers : List Read) : Expr := layers.foldl Expr.read base

/-- What is left after all outermost named reads have been taken away. -/
def Expr.base : Expr → Expr
  | .member object (.named ..) _ => object.base
  | expr => expr

/-- The outermost named reads, the innermost first. -/
def Expr.layers : Expr → List Read
  | .member object (.named name place) span => object.layers ++ [⟨name, place, span⟩]
  | _ => []

def Expr.isBase : Expr → Bool
  | .member _ (.named ..) _ => false
  | _ => true

private theorem Expr.isBase_base (expr : Expr) : expr.base.isBase = true := by
  fun_induction Expr.base expr with
  | case1 object name place span ih => exact ih
  | case2 expr unnamed =>
    unfold Expr.isBase
    split
    · exact absurd rfl (unnamed _ _ _ _)
    · rfl

private theorem Expr.extend_layers (expr : Expr) : expr.base.extend expr.layers = expr := by
  fun_induction Expr.base expr with
  | case1 object name place span ih =>
    rw [Expr.layers, Expr.extend, List.foldl_concat, ← Expr.extend, ih]
    rfl
  | case2 expr unnamed =>
    unfold Expr.layers
    split
    · exact absurd rfl (unnamed _ _ _ _)
    · rfl

private theorem Expr.base_of_isBase (expr : Expr) (ends : expr.isBase = true) :
    expr.base = expr ∧ expr.layers = [] := by
  unfold Expr.isBase at ends
  split at ends
  · cases ends
  · rename_i unnamed
    exact ⟨Expr.base.eq_2 expr unnamed, Expr.layers.eq_2 expr unnamed⟩

private theorem Expr.base_extend (base : Expr) (layers : List Read) :
    (base.extend layers).base = base.base ∧
      (base.extend layers).layers = base.layers ++ layers := by
  induction layers generalizing base with
  | nil => exact ⟨rfl, (List.append_nil _).symm⟩
  | cons layer rest ih =>
    obtain ⟨same, further⟩ := ih (base.read layer)
    refine ⟨same, further.trans ?_⟩
    rw [Expr.read, Expr.layers, List.append_assoc]
    rfl

/-- An expression is its base with its layers, and it is so in one way only. -/
theorem Expr.decomposes_uniquely (expr : Expr) :
    ∃! parts : Expr × List Read, parts.1.isBase = true ∧ parts.1.extend parts.2 = expr := by
  refine ⟨(expr.base, expr.layers), ⟨expr.isBase_base, expr.extend_layers⟩, ?_⟩
  rintro ⟨base, layers⟩ ⟨ends, rfl⟩
  obtain ⟨sameBase, sameLayers⟩ := base.base_extend layers
  obtain ⟨whole, bare⟩ := base.base_of_isBase ends
  rw [sameBase, sameLayers, whole, bare]
  rfl

def Expr.isLiteral : Expr → Bool
  | .literal _ => true
  | _ => false

theorem Expr.check_read (object : Expr) (layer : Read) (readable : object.isLiteral = false) :
    (object.read layer).check = object.check.map (.member · layer.name) := by
  cases object
  case literal value => cases readable
  all_goals rfl

def extendReference (reference : Reference) (layers : List Read) : Reference :=
  layers.foldl (fun object layer => .member object layer.name) reference

private theorem Expr.check_extend (base : Expr) (layers : List Read) (readable : base.isLiteral = false) :
    (base.extend layers).check = base.check.map (extendReference · layers) := by
  induction layers generalizing base with
  | nil =>
    change base.check = base.check.map id
    cases base.check <;> rfl
  | cons layer rest ih =>
    change ((base.read layer).extend rest).check = _
    rw [ih (base.read layer) rfl, base.check_read layer readable]
    cases base.check <;> rfl

private theorem Expr.check_extend_literal (value : Literal) (layer : Read) (rest : List Read) :
    ((Expr.literal value).extend (layer :: rest)).check =
      .error ⟨.unsupported "member access on a literal", value.span⟩ := by
  change (((Expr.literal value).read layer).extend rest).check = _
  rw [Expr.check_extend _ _ rfl]
  rfl

/-- The construct that an expression is refused as wherever it stands, operator or kind
included. -/
def Expr.construct? : Expr → Option Construct
  | .call _ => some .call
  | .binary operator _ =>
    some (if operator ∈ ["&&", "||", "??"] then .logical operator else .binary operator)
  | .unary operator _ => some (.unary operator)
  | .conditional _ => some .conditional
  | .assignment _ => some .assignment
  | .arrow _ => some .arrowFunction
  | .template _ => some .templateLiteral
  | .element _ => some (.unsupported "element in expression position")
  | .unsupported kind _ => some (.unsupported kind)
  | .identifier .. | .literal _ | .member .. => none

/-- What a base with layers over it is refused for. Only over a literal do the layers
count, and of them only that there are some. -/
inductive Expr.Refused : Expr → List Read → Violation → Prop where
  | computed (object index : Expr) (span : Span) (layers : List Read) :
      Refused (.member object (.computed index) span) layers ⟨.computedMember, span⟩
  | hidden (object : Expr) (place span : Span) (layers : List Read) :
      Refused (.member object (.hidden place) span) layers ⟨.privateMember, place⟩
  | literal (value : Literal) (layer : Read) (rest : List Read) :
      Refused (.literal value) (layer :: rest)
        ⟨.unsupported "member access on a literal", value.span⟩
  | construct {base : Expr} {construct : Construct} (own : base.construct? = some construct)
      (layers : List Read) : Refused base layers ⟨construct, base.span⟩

private theorem binaryConstruct_eq (operator : String) :
    binaryConstruct operator =
      if operator ∈ ["&&", "||", "??"] then .logical operator else .binary operator := by
  simp only [binaryConstruct, isLogicalOperator, List.mem_cons, List.not_mem_nil, or_false,
    Bool.or_eq_true, decide_eq_true_eq, or_assoc]

theorem Expr.check_eq_ok_by_base (base : Expr) (layers : List Read) (reference : Reference)
    (ends : base.isBase = true) :
    (base.extend layers).check = .ok reference ↔
      (∃ name span, base = .identifier name span ∧
        reference = extendReference (.identifier name) layers) ∨
      (∃ value, base = .literal value ∧ layers = [] ∧ reference = .literal value) := by
  cases base with
  | literal value =>
    cases layers with
    | nil => simp [Expr.extend, Expr.check, eq_comm]
    | cons layer rest => simp [Expr.check_extend_literal]
  | member object property span =>
    rw [Expr.check_extend _ _ rfl]
    cases property with
    | named name place => cases ends
    | computed index => simp [Expr.check, Except.map]
    | hidden place => simp [Expr.check, Except.map]
  | _ =>
    rw [Expr.check_extend _ _ rfl]
    simp [Expr.check, Except.map, eq_comm]

private theorem Expr.check_eq_error_by_base (base : Expr) (layers : List Read) (violation : Violation)
    (ends : base.isBase = true) :
    (base.extend layers).check = .error violation ↔ base.Refused layers violation := by
  constructor
  · intro refused
    cases base with
    | literal value =>
      cases layers with
      | nil => cases refused
      | cons layer rest =>
        rw [Expr.check_extend_literal] at refused
        cases refused
        exact .literal value layer rest
    | member object property span =>
      rw [Expr.check_extend _ _ rfl] at refused
      cases property with
      | named name place => cases ends
      | computed index =>
        cases refused
        exact .computed object index span layers
      | hidden place =>
        cases refused
        exact .hidden object place span layers
    | identifier name span =>
      rw [Expr.check_extend _ _ rfl] at refused
      cases refused
    | binary operator span =>
      rw [Expr.check_extend _ _ rfl] at refused
      cases refused
      rw [binaryConstruct_eq]
      exact .construct rfl layers
    | _ =>
      rw [Expr.check_extend _ _ rfl] at refused
      cases refused
      exact .construct rfl layers
  · intro refused
    cases refused with
    | computed object index span => rw [Expr.check_extend _ _ rfl]; rfl
    | hidden object place span => rw [Expr.check_extend _ _ rfl]; rfl
    | literal value layer rest => exact Expr.check_extend_literal value layer rest
    | @construct _ construct own =>
      cases base with
      | identifier name span => cases own
      | literal value => cases own
      | member object property span => cases own
      | binary operator span =>
        cases own
        rw [Expr.check_extend _ _ rfl, ← binaryConstruct_eq]
        rfl
      | _ =>
        cases own
        rw [Expr.check_extend _ _ rfl]
        rfl

end Template

namespace Output

def Reference.root : Reference → Reference
  | .member object _ => object.root
  | .identifier name => .identifier name
  | .literal value => .literal value

theorem Reference.print_eq_path (reference : Reference) (path : String)
    (dotted : reference.path = some path) : reference.print = path := by
  induction reference generalizing path with
  | identifier name => exact Option.some.inj dotted
  | literal value => cases dotted
  | member object property ih =>
    obtain ⟨front, inner, rfl⟩ := Option.map_eq_some_iff.mp dotted
    rw [Reference.print, ih front inner]

theorem Reference.path_eq_none_iff (reference : Reference) :
    reference.path = none ↔ ∃ value, reference.root = .literal value := by
  induction reference with
  | identifier name => simp [Reference.path, Reference.root]
  | literal value => simp [Reference.path, Reference.root]
  | member object property ih => rw [Reference.path, Option.map_eq_none_iff, ih, Reference.root]

end Output

open Output (Reference)

private theorem Template.root_extendReference (reference : Reference) (layers : List Template.Read) :
    (Template.extendReference reference layers).root = reference.root := by
  induction layers generalizing reference with
  | nil => rfl
  | cons layer rest ih => exact ih (.member reference layer.name)

/-- What the check lets pass has a path, unless it is a literal itself. -/
theorem Template.Expr.path_of_check (expr : Template.Expr) (reference : Reference)
    (checked : expr.check = .ok reference) :
    reference.path = none ↔ ∃ value, reference = .literal value := by
  rw [← expr.extend_layers, expr.base.check_eq_ok_by_base _ _ expr.isBase_base] at checked
  rw [Reference.path_eq_none_iff]
  rcases checked with ⟨name, span, -, rfl⟩ | ⟨value, -, -, rfl⟩
  · rw [Template.root_extendReference]
    constructor
    · rintro ⟨value, literal⟩
      cases literal
    · rintro ⟨value, literal⟩
      have rooted := congrArg Reference.root literal
      rw [Template.root_extendReference] at rooted
      cases rooted
  · exact ⟨fun _ => ⟨value, rfl⟩, fun _ => ⟨value, rfl⟩⟩

/-- The check of an expression in full. It is decided by the base, which every expression
has in one way only. An identifier passes with the chain over it, and so does a literal on
its own; everything else is refused for its base, whatever is read off it. The print of a
reference is its path wherever it has one. -/
theorem Template.Expr.checked_by_base :
    (∀ expr : Template.Expr, ∃! parts : Template.Expr × List Template.Read,
      parts.1.isBase = true ∧ parts.1.extend parts.2 = expr) ∧
    (∀ (base : Template.Expr) (layers : List Template.Read), base.isBase = true →
      (∀ reference, (base.extend layers).check = .ok reference ↔
        (∃ name span, base = .identifier name span ∧
          reference = Template.extendReference (.identifier name) layers) ∨
        (∃ value, base = .literal value ∧ layers = [] ∧ reference = .literal value)) ∧
      ∀ violation, (base.extend layers).check = .error violation ↔
        base.Refused layers violation) ∧
    (∀ (reference : Reference) (path : String), reference.path = some path →
      reference.print = path) ∧
    (∀ reference : Reference, reference.path = none ↔ ∃ value, reference.root = .literal value) ∧
    ∀ (expr : Template.Expr) (reference : Reference), expr.check = .ok reference →
      (reference.path = none ↔ ∃ value, reference = .literal value) := by
  refine ⟨Template.Expr.decomposes_uniquely, ?_, Reference.print_eq_path,
    Reference.path_eq_none_iff, Template.Expr.path_of_check⟩
  intro base layers ends
  exact ⟨fun reference => base.check_eq_ok_by_base layers reference ends,
    fun violation => base.check_eq_error_by_base layers violation ends⟩

theorem Template.Expr.checked_by_base_indexed :
    let base : Template.Expr := .member (.identifier "a" ⟨0, 1⟩) (.computed (.call ⟨2, 5⟩)) ⟨0, 6⟩
    let layers : List Template.Read := [⟨"b", ⟨7, 8⟩, ⟨0, 8⟩⟩, ⟨"c", ⟨9, 10⟩, ⟨0, 10⟩⟩]
    let chain : Template.Expr := Template.Expr.extend (.identifier "a" ⟨0, 1⟩) layers
    let reference : Reference := .member (.member (.identifier "a") "b") "c"
    (base.isBase = true ∧ base.Refused layers ⟨.computedMember, ⟨0, 6⟩⟩) ∧
    (reference.path = some "a.b.c" ∧ reference.print = "a.b.c") ∧
    chain.check = .ok reference ∧ (reference.path = none ↔ ∃ value, reference = .literal value) := by
  intro base layers chain reference
  obtain ⟨-, byBase, printed, -, pathed⟩ := Template.Expr.checked_by_base
  exact ⟨⟨rfl, ((byBase base layers rfl).2 _).mp rfl⟩, ⟨rfl, printed reference "a.b.c" rfl⟩,
    rfl, pathed chain reference rfl⟩

end LogicFree
