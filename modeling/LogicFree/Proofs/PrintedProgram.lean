import LogicFree.Proofs.PrintedCode
import LogicFree.Text.Lines

/-! Printed statements stand one to a line. Each is closed by a semicolon, which no
bare word holds, and a line feed, which no quoted text and no bare word holds. -/

namespace LogicFree.Output
open Template (VariableKind)
open Text.Quoted (encode)

private theorem kindText_word (kind : VariableKind) : ∀ c ∈ kind.text.toList, isWordChar c = true := by
  cases kind <;> exact List.all_eq_true.mp (by decide)

private theorem kindText_injective {kind other : VariableKind} (same : kind.text.toList = other.text.toList) :
    kind = other := by
  cases kind <;> cases other <;> first | rfl | exact absurd same (by decide)

private theorem kindText_opens (kind : VariableKind) : ∃ first rest, kind.text.toList = first :: rest := by
  cases kind <;> exact ⟨_, _, rfl⟩

private theorem toList_print_declaration (kind : VariableKind) (declarators : List (String × Option Argument)) :
    (Statement.declaration kind declarators).print.toList =
      kind.text.toList ++ ' ' :: (printDeclarators declarators).toList := by
  simp [Statement.print]

/-- A blank follows the word of a declaration, and no argument ends with a blank. -/
theorem expression_ne_declaration {argument : Argument} (wellFormed : argument.wellFormed = true)
    (kind : VariableKind) (rest more : List Char) :
    argument.print.toList ++ ';' :: rest ≠ kind.text.toList ++ ' ' :: more := by
  intro same
  have semicolon : isWordChar ';' = false := by decide
  have blank : isWordChar ' ' = false := by decide
  have bracket : isWordChar '(' = false := by decide
  rcases argument.spelling wellFormed with ⟨value, essence, text⟩ | spelled | ⟨call, rfl⟩
  · rw [text] at same
    exact encode_ne_word (kindText_opens kind) (kindText_word kind) same
  · obtain ⟨-, left⟩ := run_cancel spelled.chars.2 (kindText_word kind)
      (stops_cons semicolon rest) (stops_cons blank more) same
    cases left
  · obtain ⟨inside, opens⟩ := call.print_opens
    rw [Argument.print, opens, List.append_assoc] at same
    obtain ⟨-, left⟩ := run_cancel constructorPath_word (kindText_word kind)
      (stops_cons bracket _) (stops_cons blank more) same
    cases left

theorem Statement.print_cancel {statement other : Statement} (wellFormed : statement.wellFormed = true)
    (otherWellFormed : other.wellFormed = true) {rest more : List Char}
    (same : statement.print.toList ++ ';' :: rest = other.print.toList ++ ';' :: more) :
    statement.essence = other.essence ∧ rest = more := by
  have semicolon (rest : List Char) : Begins isDelimiter (';' :: rest) := begins_cons (by decide) rest
  cases statement with
  | expression argument =>
    cases other with
    | expression otherArgument =>
      obtain ⟨arguments, left⟩ := argument.isReadable otherArgument _ _ wellFormed otherWellFormed
        (semicolon rest) (semicolon more) same
      exact ⟨congrArg Statement.expression arguments, (List.cons.inj left).2⟩
    | declaration kind declarators =>
      rw [toList_print_declaration, List.append_assoc] at same
      exact absurd same (expression_ne_declaration wellFormed kind _ _)
  | declaration kind declarators =>
    rw [toList_print_declaration, List.append_assoc] at same
    cases other with
    | expression otherArgument => exact absurd same.symm (expression_ne_declaration otherWellFormed kind _ _)
    | declaration otherKind otherDeclarators =>
      rw [toList_print_declaration, List.append_assoc] at same
      have blank : isWordChar ' ' = false := by decide
      obtain ⟨kinds, later⟩ := run_cancel (kindText_word kind) (kindText_word otherKind)
        (stops_cons blank _) (stops_cons blank _) same
      obtain ⟨essences, left⟩ := printDeclarators_cancel declarators otherDeclarators
        wellFormed otherWellFormed (List.cons.inj later).2
      rw [Statement.essence, Statement.essence, kindText_injective kinds, essences]
      exact ⟨rfl, left⟩

private theorem toList_printStatements_cons (statement : Statement) (rest : List Statement) :
    (printStatements (statement :: rest)).toList =
      statement.print.toList ++ ';' :: '\n' :: (printStatements rest).toList := by
  simp [printStatements]

theorem printStatements_cancel (statements others : List Statement)
    (wellFormed : statements.all Statement.wellFormed = true)
    (otherWellFormed : others.all Statement.wellFormed = true)
    (same : (printStatements statements).toList = (printStatements others).toList) :
    statements.map Statement.essence = others.map Statement.essence := by
  have nonempty (statement : Statement) (rest : List Statement) :
      (printStatements []).toList ≠ (printStatements (statement :: rest)).toList := by
    rw [toList_printStatements_cons]
    intro empty
    exact absurd (List.append_eq_nil_iff.mp empty.symm).2 (List.cons_ne_nil _ _)
  induction statements generalizing others with
  | nil =>
    cases others with
    | nil => rfl
    | cons other others => exact absurd same (nonempty other others)
  | cons statement statements ih =>
    cases others with
    | nil => exact absurd same.symm (nonempty statement statements)
    | cons other others =>
      simp only [List.all_cons, Bool.and_eq_true] at wellFormed otherWellFormed
      rw [toList_printStatements_cons, toList_printStatements_cons] at same
      obtain ⟨firsts, later⟩ := Statement.print_cancel wellFormed.1 otherWellFormed.1 same
      rw [List.map_cons, List.map_cons, firsts,
        ih others wellFormed.2 otherWellFormed.2 (List.cons.inj later).2]

private theorem encode_oneLine (text : List Char) : '\n' ∉ encode text := by
  intro member
  exact absurd (Text.Quoted.encode_visible text '\n' member) (by decide)

private theorem word_oneLine {word : List Char} (inside : ∀ c ∈ word, isWordChar c = true) : '\n' ∉ word := by
  intro member
  have blank := inside '\n' member
  revert blank
  decide

private theorem separated_oneLine {α : Type} {print : α → String} (items : List α)
    (oneLine : ∀ item ∈ items, '\n' ∉ (print item).toList) : '\n' ∉ separated print items := by
  intro member
  obtain ⟨item, listed, inside⟩ := List.mem_flatMap.mp member
  simp only [List.mem_cons] at inside
  rcases inside with comma | blank | printed
  · exact absurd comma (by decide)
  · exact absurd blank (by decide)
  · exact oneLine item listed printed

private theorem Argument.plain_oneLine {argument : Argument} (wellFormed : argument.wellFormed = true)
    (plain : ∀ call, argument ≠ .create call) : '\n' ∉ argument.print.toList := by
  rcases argument.spelling wellFormed with ⟨value, essence, text⟩ | spelled | ⟨call, rfl⟩
  · rw [text]
    exact encode_oneLine value.toList
  · exact word_oneLine spelled.chars.2
  · exact absurd rfl (plain call)

private theorem Key.oneLine {key : Key} (wellFormed : key.wellFormed = true) : '\n' ∉ key.print.toList := by
  cases key with
  | bare name => exact word_oneLine (isName_word wellFormed)
  | quoted name =>
    rw [Key.print, toList_quote]
    exact encode_oneLine name.toList

mutual

private theorem Argument.oneLine (argument : Argument) (wellFormed : argument.wellFormed = true) :
    '\n' ∉ argument.print.toList := by
  cases argument with
  | string value => exact Argument.plain_oneLine wellFormed nofun
  | boolean value => exact Argument.plain_oneLine wellFormed nofun
  | reference reference => exact Argument.plain_oneLine wellFormed nofun
  | create call =>
    rw [Argument.wellFormed] at wellFormed
    rw [Argument.print]
    exact call.oneLine wellFormed
termination_by structural argument

private theorem CreateCall.oneLine (call : CreateCall) (wellFormed : call.wellFormed = true) :
    '\n' ∉ call.print.toList := by
  cases call with
  | mk tag attributes children span =>
    simp only [CreateCall.wellFormed, Bool.and_eq_true] at wellFormed
    have path := word_oneLine constructorPath_word
    have quotedTag := encode_oneLine tag.toList
    have properties := attributes_oneLine attributes wellFormed.1
    have arguments := separated_oneLine children (children_oneLine children wellFormed.2)
    simp only [CreateCall.toList_print, toList_printChildren, List.mem_append, List.mem_cons, not_or]
    exact ⟨path, by decide, quotedTag, by decide, by decide, properties, arguments, by decide, nofun⟩
termination_by structural call

private theorem attributes_oneLine (attributes : Option (List Property))
    (wellFormed : attributesWellFormed attributes = true) : '\n' ∉ (printAttributes attributes).toList := by
  cases attributes with
  | none => decide
  | some properties =>
    have each := properties_oneLine properties wellFormed
    cases properties with
    | nil => decide
    | cons first rest =>
      rw [List.forall_mem_cons] at each
      have further := separated_oneLine rest each.2
      simp only [toList_printAttributes_cons, List.mem_append, List.mem_cons, not_or]
      exact ⟨by decide, by decide, each.1, further, by decide, by decide, nofun⟩
termination_by structural attributes

private theorem Property.oneLine (property : Property) (wellFormed : property.wellFormed = true) :
    '\n' ∉ property.print.toList := by
  cases property with
  | mk key value =>
    simp only [Property.wellFormed, Bool.and_eq_true] at wellFormed
    simp only [Property.toList_print, List.mem_append, List.mem_cons, not_or]
    exact ⟨Key.oneLine wellFormed.1, by decide, by decide, value.oneLine wellFormed.2⟩
termination_by structural property

private theorem properties_oneLine (properties : List Property) (wellFormed : propertiesWellFormed properties = true) :
    ∀ property ∈ properties, '\n' ∉ property.print.toList := by
  cases properties with
  | nil => exact nofun
  | cons first rest =>
    simp only [propertiesWellFormed, Bool.and_eq_true] at wellFormed
    exact List.forall_mem_cons.mpr ⟨first.oneLine wellFormed.1, properties_oneLine rest wellFormed.2⟩
termination_by structural properties

private theorem children_oneLine (children : List Argument) (wellFormed : childrenWellFormed children = true) :
    ∀ child ∈ children, '\n' ∉ child.print.toList := by
  cases children with
  | nil => exact nofun
  | cons first rest =>
    simp only [childrenWellFormed, Bool.and_eq_true] at wellFormed
    exact List.forall_mem_cons.mpr ⟨first.oneLine wellFormed.1, children_oneLine rest wellFormed.2⟩
termination_by structural children

end

private theorem declarator_oneLine (declarator : String × Option Argument)
    (wellFormed : declaratorWellFormed declarator = true) : '\n' ∉ (printDeclarator declarator).toList := by
  obtain ⟨name, _ | init⟩ := declarator
  · exact word_oneLine (isName_word wellFormed)
  · simp only [declaratorWellFormed, Bool.and_eq_true] at wellFormed
    simp only [toList_printDeclarator_some, List.mem_append, List.mem_cons, not_or]
    exact ⟨word_oneLine (isName_word wellFormed.1), by decide, by decide, by decide,
      init.oneLine wellFormed.2⟩

private theorem Statement.oneLine (statement : Statement) (wellFormed : statement.wellFormed = true) :
    '\n' ∉ statement.print.toList := by
  cases statement with
  | expression argument => exact argument.oneLine wellFormed
  | declaration kind declarators =>
    have each : ∀ declarator ∈ declarators, '\n' ∉ (printDeclarator declarator).toList :=
      fun declarator member => declarator_oneLine declarator (List.all_eq_true.mp wellFormed declarator member)
    have declared : '\n' ∉ (printDeclarators declarators).toList := by
      cases declarators with
      | nil => exact nofun
      | cons first rest =>
        rw [List.forall_mem_cons] at each
        rw [toList_printDeclarators_cons, List.mem_append, not_or]
        exact ⟨each.1, separated_oneLine rest each.2⟩
    simp only [toList_print_declaration, List.mem_append, List.mem_cons, not_or]
    exact ⟨word_oneLine (kindText_word kind), by decide, declared⟩

/-- A row without line feeds is the first line. The mark before the line feed is no
carriage return, so the whole row is kept. -/
theorem lines_row {row : List Char} (oneLine : '\n' ∉ row) (rest : List Char) :
    Text.lines (row ++ ';' :: '\n' :: rest) = (row ++ [';']) :: Text.lines rest := by
  induction row with
  | nil => rfl
  | cons c row ih =>
    rw [List.mem_cons, not_or] at oneLine
    have kept : ¬(c = '\r' ∧ (row ++ ';' :: '\n' :: rest).head? = some '\n') := by
      rintro ⟨-, opened⟩
      cases row with
      | nil => cases opened
      | cons d row =>
        obtain rfl := Option.some.inj opened
        exact oneLine.2 List.mem_cons_self
    rw [List.cons_append, Text.lines, if_neg kept, ih oneLine.2]
    · rfl
    · exact fun equal => oneLine.1 equal.symm

private theorem lines_printStatements (statements : List Statement)
    (wellFormed : statements.all Statement.wellFormed = true) :
    Text.lines (printStatements statements).toList =
      statements.map fun statement => statement.print.toList ++ [';'] := by
  induction statements with
  | nil => rfl
  | cons statement rest ih =>
    simp only [List.all_cons, Bool.and_eq_true] at wellFormed
    rw [toList_printStatements_cons, lines_row (statement.oneLine wellFormed.1), List.map_cons,
      ih wellFormed.2]

private theorem count_lineFeed (statements : List Statement)
    (wellFormed : statements.all Statement.wellFormed = true) :
    (printStatements statements).toList.count '\n' = statements.length := by
  induction statements with
  | nil => rfl
  | cons statement rest ih =>
    simp only [List.all_cons, Bool.and_eq_true] at wellFormed
    have none := List.count_eq_zero.mpr (statement.oneLine wellFormed.1)
    rw [toList_printStatements_cons, List.count_append, none, Nat.zero_add,
      List.count_cons_of_ne (by decide), List.count_cons_self, ih wellFormed.2, List.length_cons]

/-- The text of a well-formed program tells its essence, and nothing besides. It
holds one line feed for each statement, and a semicolon closes each of its lines. -/
theorem Program.print_determines (program other : Program) (wellFormed : program.wellFormed = true)
    (otherWellFormed : other.wellFormed = true) :
    (program.print = other.print ↔ program.essence = other.essence) ∧
      program.print.toList.count '\n' = program.body.length ∧
      ∀ line ∈ Text.lines program.print.toList, line.getLast? = some ';' := by
  refine ⟨⟨?_, ?_⟩, count_lineFeed program.body wellFormed, ?_⟩
  · intro same
    have bodies := printStatements_cancel program.body other.body wellFormed otherWellFormed
      (congrArg String.toList same)
    exact congrArg Program.mk bodies
  · intro same
    rw [← program.print_essence, same, other.print_essence]
  · intro line member
    rw [Program.print, lines_printStatements program.body wellFormed] at member
    obtain ⟨statement, -, rfl⟩ := List.mem_map.mp member
    exact List.getLast?_concat

theorem Program.print_determines_literals :
    let program : Program := ⟨[.declaration .constant [("size", some (.reference (.literal (.number 1 "1" {}))))],
      .expression (.create ⟨"p", some [⟨.quoted "a\nb", .string "\""⟩], [.boolean true], {}⟩)]⟩
    let other : Program := ⟨[.declaration .constant [("size", some (.reference (.literal (.number 0 "1" {}))))],
      .expression (.create ⟨"p", some [⟨.quoted "a\nb", .reference (.literal (.string "\"" {}))⟩],
        [.reference (.literal (.boolean true {}))], ⟨2, 9⟩⟩)]⟩
    program.print = other.print ∧ program.print.toList.count '\n' = 2 := by
  intro program other
  obtain ⟨texts, lineFeeds, -⟩ := Program.print_determines program other (by decide) (by decide)
  exact ⟨texts.mpr rfl, lineFeeds⟩

end LogicFree.Output
