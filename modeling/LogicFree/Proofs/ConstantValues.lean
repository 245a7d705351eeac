import LogicFree.Compiler
import LogicFree.Proofs.Translation

/-! Constants and their values. What is compiled has a value exactly where the script has
one, and nothing else looks for it, so the only constants that are printed without a value are
those that were read without one: a script that obeys the rules of the language has them only
where it describes what is defined elsewhere. -/

namespace LogicFree

/-- Every declarator of a constant has its value. -/
def Output.Program.Valued (program : Output.Program) : Prop :=
  ∀ declarators, .declaration .constant declarators ∈ program.body →
    ∀ declarator ∈ declarators, declarator.2.isSome

def Script.Program.Valued (program : Script.Program) : Prop :=
  ∀ ambient declarators span, .declaration ambient .constant declarators span ∈ program.body →
    ∀ declarator ∈ declarators, declarator.init.isSome

namespace Template

private theorem Declarator.value_image (declarator : Declarator) (admissible : declarator.Admissible) :
    ∃ name value, declarator.image = some (name, value) ∧ value.isSome = declarator.init.isSome := by
  obtain ⟨image, same, becomes⟩ := declarator.becomes_image admissible
  cases becomes with
  | bare name place span => exact ⟨name, none, same, rfl⟩
  | initialized name becomes place span => exact ⟨name, _, same, rfl⟩

private theorem values_image (declarators : List Declarator)
    (admissible : ∀ declarator ∈ declarators, declarator.Admissible) :
    (∀ image ∈ declarators.filterMap Declarator.image, image.2.isSome) ↔
      ∀ declarator ∈ declarators, declarator.init.isSome := by
  induction declarators with
  | nil => simp
  | cons declarator rest ih =>
    obtain ⟨first, others⟩ := List.forall_mem_cons.mp admissible
    obtain ⟨name, value, image, same⟩ := declarator.value_image first
    rw [List.filterMap_cons_some image, List.forall_mem_cons, List.forall_mem_cons, ih others, same]

theorem Program.valued_image_iff (program : Program) (admissible : program.Admissible) :
    program.image.Valued ↔ ∀ decl, .declaration decl ∈ program.body → decl.kind = .constant →
      ∀ declarator ∈ decl.declarators, declarator.init.isSome := by
  have values (decl : Declaration) (member : .declaration decl ∈ program.body) :=
    values_image decl.declarators (by
      cases admissible _ member with
      | declaration admissible => exact admissible)
  constructor
  · intro valued decl member constant
    apply (values decl member).mp
    apply valued
    refine List.mem_filterMap.mpr ⟨.declaration decl, member, ?_⟩
    rw [Statement.image, constant]
  · intro valued declarators member
    obtain ⟨statement, listed, image⟩ := List.mem_filterMap.mp member
    cases statement with
    | declaration decl =>
      obtain ⟨kind, written, span⟩ := decl
      cases image
      exact (values _ listed).mpr (valued _ listed rfl)
    | expression expr span =>
      rw [Statement.image, Option.map_eq_some_iff] at image
      obtain ⟨argument, -, impossible⟩ := image
      cases impossible
    | _ => cases image

end Template

private theorem Script.Program.valued_toTemplate_iff (source : String) (program : Script.Program) :
    (∀ decl, .declaration decl ∈ (program.toTemplate source).body → decl.kind = .constant →
      ∀ declarator ∈ decl.declarators, declarator.init.isSome) ↔ program.Valued := by
  constructor
  · intro valued ambient declarators span member declarator inside
    have init := valued ⟨.constant, declarators.map (·.toTemplate source), span⟩
      (List.mem_map.mpr ⟨_, member, rfl⟩) rfl _ (List.mem_map.mpr ⟨declarator, inside, rfl⟩)
    rwa [Declarator.toTemplate, Option.isSome_map] at init
  · intro valued decl member constant declarator inside
    obtain ⟨statement, listed, same⟩ := List.mem_map.mp member
    cases statement with
    | declaration ambient kind declarators span =>
      cases same
      cases constant
      obtain ⟨origin, written, rfl⟩ := List.mem_map.mp inside
      rw [Declarator.toTemplate, Option.isSome_map]
      exact valued ambient declarators span listed origin written
    | _ => cases same

/-- A constant without a value is one that is only described, and the untyped dialect
describes none. -/
theorem Script.Reader.RequiresValues.valued_iff {reader : Script.Reader} (strict : reader.RequiresValues)
    {dialect : Script.Dialect} {source : String} {script : Script.Program} (read : reader dialect source = .ok script) :
    (script.Valued ↔ ∀ declarators span, .declaration true .constant declarators span ∈ script.body →
      ∀ declarator ∈ declarators, declarator.init.isSome) ∧
    (dialect = .jsx → script.Valued) := by
  refine ⟨⟨fun valued declarators span => valued true declarators span, ?_⟩, ?_⟩
  · intro described ambient declarators span member
    cases ambient with
    | true => exact described declarators span member
    | false => exact strict.defined read declarators span member
  · rintro rfl ambient declarators span member
    cases ambient with
    | true => exact absurd member (strict.untyped read .constant declarators span)
    | false => exact strict.defined read declarators span member

private theorem compile_eq_ok {reader : Script.Reader} {config : Config} {source code : String}
    (compiled : (compile reader config source).1 = .ok code) :
    ∃ script output, reader config.dialect source = .ok script ∧
      ((script.toTemplate source).compile config.mode).1 = .ok output ∧ code = output.print := by
  unfold compile parse at compiled
  cases read : reader config.dialect source with
  | error complaint =>
    rw [read] at compiled
    cases compiled
  | ok script =>
    rw [read] at compiled
    cases result : (script.toTemplate source).compile config.mode with
    | mk outcome events =>
      simp only [result] at compiled
      cases outcome with
      | error failure => cases compiled
      | ok output =>
        refine ⟨script, output, rfl, by rw [result], ?_⟩
        cases compiled
        rfl

theorem compiled_valued_iff {script : Script.Program} {source : String} {mode : Mode} {output : Output.Program}
    (success : ((script.toTemplate source).compile mode).1 = .ok output) : output.Valued ↔ script.Valued := by
  obtain ⟨accepted, rfl⟩ := (Template.Program.compile_eq_ok_iff _ _ _).mp success
  have admissible := (Template.Program.violations_eq_nil_iff _).mp accepted
  exact (Template.Program.valued_image_iff _ admissible).trans (script.valued_toTemplate_iff source)

private theorem Script.Reader.knowing_requiresValues {dialect : Script.Dialect} {source : String} {ambient : Bool}
    {declarators : List Script.Declarator} {span place : Span}
    (defined : ambient = false → ∀ declarator ∈ declarators, declarator.init.isSome)
    (typed : ambient = true → dialect = .tsx) :
    (Reader.knowing dialect source ⟨[.declaration ambient .constant declarators span], place⟩).RequiresValues := by
  constructor
  · intro spoken text script read others around member
    obtain ⟨-, rfl⟩ := Reader.knowing_eq_ok_iff.mp read
    cases List.mem_singleton.mp member
    exact defined rfl
  · intro text script read kind others around member
    obtain ⟨⟨rfl, -⟩, rfl⟩ := Reader.knowing_eq_ok_iff.mp read
    cases List.mem_singleton.mp member
    cases typed rfl

/-- In compiled code every constant has its value, unless the script only describes one:
an ambient constant without a value is printed like any other, and nothing else can leave
a value out. In the untyped dialect no constant is printed without its value. -/
theorem constants_valued_iff (reader : Script.Reader) (strict : reader.RequiresValues) (config : Config)
    (source code : String) (compiled : (compile reader config source).1 = .ok code) :
    ∃ script output, reader config.dialect source = .ok script ∧
      ((script.toTemplate source).compile config.mode).1 = .ok output ∧ code = output.print ∧
      (output.Valued ↔
        ∀ declarators span, .declaration true .constant declarators span ∈ script.body →
          ∀ declarator ∈ declarators, declarator.init.isSome) ∧
      (config.dialect = .jsx → output.Valued) := by
  obtain ⟨script, output, read, success, printed⟩ := compile_eq_ok compiled
  have same := compiled_valued_iff success
  obtain ⟨described, untyped⟩ := strict.valued_iff read
  exact ⟨script, output, read, success, printed, same.trans described, fun jsx => same.mpr (untyped jsx)⟩

theorem constants_valued_iff_element :
    let source := "const a = <b/>, c = d.e;"
    let element : Script.Element := ⟨.plain "b" ⟨11, 12⟩, [], [], true, ⟨10, 14⟩⟩
    let member : Script.Expr := .member (.identifier "d" ⟨20, 21⟩) (.named "e" ⟨22, 23⟩) ⟨20, 23⟩
    let declarators : List Script.Declarator :=
      [⟨.identifier "a" ⟨6, 7⟩, some (.element element), ⟨6, 14⟩⟩,
        ⟨.identifier "c" ⟨16, 17⟩, some member, ⟨16, 23⟩⟩]
    let script : Script.Program := ⟨[.declaration false .constant declarators ⟨0, 24⟩], ⟨0, 24⟩⟩
    let reader := Script.Reader.knowing .jsx source script
    let code := "const a = Easley.Jet.create(\"b\", null), c = d.e;\n"
    reader.RequiresValues ∧ (compile reader {} source).1 = .ok code ∧
      ∃ output : Output.Program, output.print = code ∧ output.Valued := by
  intro source element member declarators script reader code
  have strict : reader.RequiresValues := Script.Reader.knowing_requiresValues (fun _ => by decide) nofun
  have compiled : (compile reader {} source).1 = .ok code := by decide +kernel
  obtain ⟨-, output, -, -, printed, -, valued⟩ := constants_valued_iff reader strict {} source code compiled
  exact ⟨strict, compiled, output, printed.symm, valued rfl⟩

/-- A described constant is printed as if it were defined, without a value. -/
theorem described_constant_unvalued :
    let source := "declare const x: number;"
    let declarator : Script.Declarator := ⟨.identifier "x" ⟨14, 15⟩, none, ⟨14, 23⟩⟩
    let script : Script.Program := ⟨[.declaration true .constant [declarator] ⟨0, 24⟩], ⟨0, 24⟩⟩
    let reader := Script.Reader.knowing .tsx source script
    reader.RequiresValues ∧ (compile reader { dialect := .tsx } source).1 = .ok "const x;\n" ∧
      ∃ output, ((script.toTemplate source).compile .first).1 = .ok output ∧ output.print = "const x;\n" ∧
        ¬ output.Valued := by
  intro source declarator script reader
  have strict : reader.RequiresValues := Script.Reader.knowing_requiresValues nofun fun _ => rfl
  have compiled : (compile reader { dialect := .tsx } source).1 = .ok "const x;\n" := by decide +kernel
  obtain ⟨known, output, read, success, printed⟩ := compile_eq_ok compiled
  obtain ⟨-, rfl⟩ := Script.Reader.knowing_eq_ok_iff.mp read
  refine ⟨strict, compiled, output, success, printed.symm, ?_⟩
  rw [compiled_valued_iff success]
  intro valued
  cases valued true [declarator] ⟨0, 24⟩ (List.mem_singleton.mpr rfl) declarator (List.mem_singleton.mpr rfl)

end LogicFree
