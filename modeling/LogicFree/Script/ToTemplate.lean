import LogicFree.Script.Tree
import LogicFree.Text.Bytes

/-! Templates from script files. What a template may hold keeps its shape; all
else arrives as a shape that the policy refuses. -/

namespace LogicFree.Script

/-- The words for an expression of which only the kind was kept, or its own
shape where templates have one. -/
def ExprForm.toTemplate (form : ExprForm) (span : Span) : Template.Expr :=
  match form with
  | .thisValue => .unsupported "this" span
  | .nullValue => .unsupported "null literal" span
  | .bigint => .unsupported "bigint literal" span
  | .regex => .unsupported "regular expression" span
  | .array => .unsupported "array literal" span
  | .object => .unsupported "object literal" span
  | .functionValue => .unsupported "function expression" span
  | .classValue => .unsupported "class expression" span
  | .instantiation => .unsupported "new expression" span
  | .sequence => .unsupported "sequence expression" span
  | .superProperty => .unsupported "super property" span
  | .yieldValue => .unsupported "yield expression" span
  | .awaitValue => .unsupported "await expression" span
  | .metaProperty => .unsupported "meta property" span
  | .optionalChain => .unsupported "optional chain" span
  | .fragment => .unsupported "fragment" span
  | .privateName => .unsupported "private name" span
  | .typeExpression => .unsupported "type expression" span
  | .call => .call span
  | .conditional => .conditional span
  | .assignment => .assignment span
  | .arrow => .arrow span
  | .template | .taggedTemplate => .template span
  | .markupText => .unsupported "markup text" span
  | .markupMember | .markupNamespace | .markupEmpty | .invalid => .unsupported "expression" span

/-- The words for a statement of which only the kind was kept. -/
def StatementForm.text : StatementForm → String
  | .block => "block"
  | .debugger => "debugger"
  | .withScope => "with"
  | .returnFrom => "return"
  | .labeled => "labeled"
  | .breakFrom => "break"
  | .continueWith => "continue"
  | .ifElse => "if"
  | .switchCase => "switch"
  | .throwError => "throw"
  | .tryCatch => "try"
  | .whileLoop => "while"
  | .doWhileLoop => "do-while"
  | .forLoop => "for"
  | .functionDeclaration => "function"
  | .classDeclaration => "class"
  | .usingDeclaration => "using"
  | .typeDeclaration => "type declaration"

def ModuleForm.toTemplate : ModuleForm → Template.ModuleItem
  | .importNames | .importAlias => .importDeclaration
  | .exportDefault | .exportAssignment => .exportDefault
  | .exportAll => .exportAll
  | .exportFrom => .exportSpecifier
  | .exportNames | .exportDeclaration | .exportNamespace => .exportNamed

/-- What is said of a string with half a surrogate pair. -/
def loneSurrogates : String := "string with lone surrogates"

/-- The text of a source at a place. A place that cuts a character has none. -/
def slice (source : String) (span : Span) : String :=
  String.ofList ((Text.slice? source.toList span.start span.stop).getD [])

/-- The name of an element. A dotted one is spelled as in the source. -/
def TagName.toTemplate (source : String) : TagName → String
  | .plain name _ => name
  | .namespaced space name _ => space ++ ":" ++ name
  | .dotted _ span => slice source span

def AttributeName.toTemplate : AttributeName → String
  | .plain name => name
  | .namespaced space name => space ++ ":" ++ name

mutual

/-- The template expression of a script expression. Parentheses are dropped, and
the spelling of a number is taken from the source. -/
def Expr.toTemplate (source : String) : Expr → Template.Expr
  | .identifier name span => .identifier name span
  | .string (some value) span => .literal (.string value span)
  | .string none span => .unsupported loneSurrogates span
  | .number bits span => .literal (.number bits (slice source span) span)
  | .boolean value span => .literal (.boolean value span)
  | .paren inner _ => inner.toTemplate source
  | .member object property span =>
    .member (object.toTemplate source) (property.toTemplate source) span
  | .binary operator span => .binary operator.text span
  | .unary operator span => .unary operator.text span
  | .element inner => .element (inner.toTemplate source)
  | .other form span => form.toTemplate span

def Property.toTemplate (source : String) : Property → Template.Property
  | .named name span => .named name span
  | .computed index => .computed (index.toTemplate source)
  | .hidden span => .hidden span

def Element.toTemplate (source : String) : Element → Template.Element
  | ⟨name, attributes, children, selfClosing, span⟩ =>
    ⟨name.toTemplate source, attributesToTemplate source attributes,
      childrenToTemplate source children, selfClosing, span⟩

def attributesToTemplate (source : String) : List Attribute → List Template.Attribute
  | [] => []
  | .named name value span :: rest =>
    .named name.toTemplate (value.toTemplate source) span :: attributesToTemplate source rest
  | .spread span :: rest => .spread span :: attributesToTemplate source rest

def AttributeValue.toTemplate (source : String) : AttributeValue → Template.AttributeValue
  | .absent => .absent
  | .string (some value) span => .text value span
  | .string none span => .expression (.unsupported loneSurrogates span)
  | .expression expr => .expression (expr.toTemplate source)
  | .empty span => .empty span
  | .element inner => .expression (.element (inner.toTemplate source))
  | .fragment span => .expression (.unsupported "fragment" span)

def childrenToTemplate (source : String) : List Child → List Template.Child
  | [] => []
  | child :: rest => child.toTemplate source :: childrenToTemplate source rest

def Child.toTemplate (source : String) : Child → Template.Child
  | .text value span => .text value span
  | .expression expr => .expression (expr.toTemplate source)
  | .empty span => .empty span
  | .element inner => .element (inner.toTemplate source)
  | .fragment span => .unsupported "fragment" span
  | .spread span => .unsupported "spread child" span

end

def Binding.toTemplate : Binding → Template.Binding
  | .identifier name span => .identifier name span
  | .pattern span => .pattern span

def Declarator.toTemplate (source : String) (declarator : Declarator) : Template.Declarator where
  binding := declarator.binding.toTemplate
  init := declarator.init.map (·.toTemplate source)
  span := declarator.span

/-- That a declaration is ambient is not kept. -/
def Statement.toTemplate (source : String) : Statement → Template.Statement
  | .moduleItem form span => .moduleItem form.toTemplate span
  | .expression expr span => .expression (expr.toTemplate source) span
  | .declaration _ kind declarators span =>
    .declaration ⟨kind, declarators.map (·.toTemplate source), span⟩
  | .empty span => .empty span
  | .other form span => .unsupported form.text span

/-- The template of a script file, with the source from which spellings are taken. -/
def Program.toTemplate (source : String) (program : Program) : Template.Program where
  body := program.body.map (·.toTemplate source)
  span := program.span

end LogicFree.Script
