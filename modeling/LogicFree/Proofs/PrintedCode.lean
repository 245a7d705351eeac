import LogicFree.Proofs.PrintedWords
import LogicFree.Proofs.QuotedReading

/-! Printed code determines the program. Two equal texts that begin with the text
of an argument begin with one argument, whatever follows: its first characters tell
whether it is quoted, a word or a call, and each of these shows where it ends. -/

namespace LogicFree.Output
open Template (VariableKind)
open Text.Quoted (encode encode_append_inj)

theorem toList_quote (text : String) : (quote text).toList = encode text.toList :=
  String.toList_ofList

/-- The three ways in which the text of an argument begins. -/
inductive Argument.Spelling (argument : Argument) : Prop where
  | quoted (value : String) (essence : argument.essence = .string value)
      (text : argument.print.toList = encode value.toList)
  | word (spelled : Word argument.essence argument.print.toList)
  | call (inner : CreateCall) (same : argument = .create inner)

theorem Argument.spelling (argument : Argument) (wellFormed : argument.wellFormed = true) :
    argument.Spelling := by
  cases argument with
  | string value => exact .quoted value (by rw [essence]) (by rw [print, toList_quote])
  | boolean value =>
    apply Spelling.word
    rw [essence, print]
    exact .boolean value
  | create call => exact .call call rfl
  | reference reference =>
    rw [Argument.wellFormed] at wellFormed
    cases reference with
    | identifier name =>
      apply Spelling.word
      rw [essence, print]
      · exact .chain rfl wellFormed
      all_goals rintro _ _ ⟨⟩
    | member object property =>
      have chain : (Reference.member object property).isChain = true := by
        simp only [Reference.wellFormed, Bool.and_eq_true] at wellFormed
        exact wellFormed.1.1
      apply Spelling.word
      rw [essence, print, Reference.essence_of_chain _ chain]
      · exact .chain chain wellFormed
      all_goals rintro _ _ ⟨⟩
    | literal literal =>
      cases literal with
      | string value span =>
        exact .quoted value (by rw [essence]) (by rw [print, Reference.print, toList_quote])
      | boolean value span =>
        apply Spelling.word
        rw [essence, print, Reference.print]
        exact .boolean value
      | number bits raw span =>
        apply Spelling.word
        rw [essence, print, Reference.print]
        · exact .number wellFormed
        all_goals rintro _ _ ⟨⟩

/-- The rest of a text is empty or begins with a character of some kind. -/
def Begins (test : Char → Bool) (rest : List Char) : Prop :=
  ∀ c ∈ rest.head?, test c = true

theorem begins_cons {test : Char → Bool} {c : Char} (holds : test c = true) (rest : List Char) :
    Begins test (c :: rest) := by
  rintro d ⟨⟩
  exact holds

/-- What may follow an argument: no character of a word and no opening bracket. -/
def isDelimiter (c : Char) : Bool := !isWordChar c && c ≠ '('

theorem Begins.stops {rest : List Char} (delimited : Begins isDelimiter rest) :
    Stops isWordChar rest := by
  intro c member
  have delimiter := delimited c member
  simp only [isDelimiter, Bool.and_eq_true, Bool.not_eq_true'] at delimiter
  exact delimiter.1

theorem CreateCall.toList_print (tag : String) (attributes : Option (List Property))
    (children : List Argument) (span : Span) :
    (CreateCall.mk tag attributes children span).print.toList =
      constructorPath.toList ++ '(' :: (encode tag.toList ++ ',' :: ' ' ::
        ((printAttributes attributes).toList ++ ((printChildren children).toList ++ [')']))) := by
  simp [CreateCall.print, toList_quote]

/-- A call begins with the path of the constructor and an opening bracket. -/
theorem CreateCall.print_opens (call : CreateCall) :
    ∃ rest, call.print.toList = constructorPath.toList ++ '(' :: rest := by
  obtain ⟨tag, attributes, children, span⟩ := call
  exact ⟨_, CreateCall.toList_print tag attributes children span⟩

theorem constructorPath_word : ∀ c ∈ constructorPath.toList, isWordChar c = true :=
  List.all_eq_true.mp (by decide)

theorem encode_ne_word {text rest word more : List Char} (nonempty : ∃ first later, word = first :: later)
    (inside : ∀ c ∈ word, isWordChar c = true) : encode text ++ rest ≠ word ++ more := by
  intro same
  obtain ⟨first, later, rfl⟩ := nonempty
  obtain ⟨rfl, -⟩ := List.cons.inj same
  have quoteMark := inside _ List.mem_cons_self
  revert quoteMark
  decide

/-- An argument that is no call can be told from every other by its text. -/
theorem Argument.plain_cancel {argument other : Argument} {rest more : List Char}
    (wellFormed : argument.wellFormed = true) (otherWellFormed : other.wellFormed = true)
    (plain : ∀ call, argument ≠ .create call) (ends : Begins isDelimiter rest)
    (otherEnds : Begins isDelimiter more)
    (same : argument.print.toList ++ rest = other.print.toList ++ more) :
    argument.essence = other.essence ∧ rest = more := by
  rcases argument.spelling wellFormed with ⟨value, essence, text⟩ | spelled | ⟨call, rfl⟩
  · rw [text] at same
    rcases other.spelling otherWellFormed with
      ⟨otherValue, otherEssence, otherText⟩ | otherSpelled | ⟨call, rfl⟩
    · rw [otherText] at same
      obtain ⟨values, left⟩ := encode_append_inj same
      rw [essence, otherEssence, String.toList_inj.mp values]
      exact ⟨rfl, left⟩
    · exact absurd same (encode_ne_word otherSpelled.chars.1 otherSpelled.chars.2)
    · obtain ⟨inside, opens⟩ := call.print_opens
      rw [Argument.print, opens, List.append_assoc] at same
      exact absurd same (encode_ne_word ⟨_, _, rfl⟩ constructorPath_word)
  · rcases other.spelling otherWellFormed with
      ⟨otherValue, otherEssence, otherText⟩ | otherSpelled | ⟨call, rfl⟩
    · rw [otherText] at same
      exact absurd same.symm (encode_ne_word spelled.chars.1 spelled.chars.2)
    · obtain ⟨words, left⟩ := run_cancel spelled.chars.2 otherSpelled.chars.2 ends.stops otherEnds.stops same
      exact ⟨spelled.unique otherSpelled words, left⟩
    · -- The word would have to be the path of the constructor, with a bracket after it.
      obtain ⟨inside, opens⟩ := call.print_opens
      rw [Argument.print, opens, List.append_assoc] at same
      have bracket : isWordChar '(' = false := by decide
      obtain ⟨-, left⟩ := run_cancel spelled.chars.2 constructorPath_word ends.stops
        (stops_cons bracket _) same
      exact absurd (ends '(' (by rw [left]; rfl)) (by decide)
  · exact absurd rfl (plain call)

theorem Key.print_cancel {key other : Key} {rest more : List Char} (wellFormed : key.wellFormed = true)
    (otherWellFormed : other.wellFormed = true)
    (same : key.print.toList ++ ':' :: rest = other.print.toList ++ ':' :: more) :
    key = other ∧ rest = more := by
  have colon : isWordChar ':' = false := by decide
  have opens {name : String} (plain : isName name = true) : ∃ first rest, name.toList = first :: rest := by
    obtain ⟨first, rest, opened, -⟩ := isName_opens plain
    exact ⟨first, rest, opened⟩
  cases key with
  | bare name =>
    cases other with
    | bare otherName =>
      obtain ⟨names, left⟩ := run_cancel (isName_word wellFormed) (isName_word otherWellFormed)
        (stops_cons colon rest) (stops_cons colon more) same
      exact ⟨congrArg Key.bare (String.toList_inj.mp names), (List.cons.inj left).2⟩
    | quoted otherName =>
      rw [Key.print, Key.print, toList_quote] at same
      exact absurd same.symm (encode_ne_word (opens wellFormed) (isName_word wellFormed))
  | quoted name =>
    cases other with
    | bare otherName =>
      rw [Key.print, Key.print, toList_quote] at same
      exact absurd same (encode_ne_word (opens otherWellFormed) (isName_word otherWellFormed))
    | quoted otherName =>
      rw [Key.print, Key.print, toList_quote, toList_quote] at same
      obtain ⟨names, left⟩ := encode_append_inj same
      exact ⟨congrArg Key.quoted (String.toList_inj.mp names), (List.cons.inj left).2⟩

theorem Property.toList_print (key : Key) (value : Argument) :
    (Property.mk key value).print.toList = key.print.toList ++ ':' :: ' ' :: value.print.toList := by
  simp [Property.print]

/-- The text of an item shows what the item is and where its text ends, as long as
something of the right kind follows it. -/
def Readable {α β : Type} (follow : Char → Bool) (print : α → String) (wellFormed : α → Bool)
    (essence : α → β) (item : α) : Prop :=
  ∀ (other : α) (rest more : List Char), wellFormed item = true → wellFormed other = true →
    Begins follow rest → Begins follow more →
    (print item).toList ++ rest = (print other).toList ++ more →
    essence item = essence other ∧ rest = more

section
variable {α β : Type} {follow : Char → Bool} {print : α → String} {wellFormed : α → Bool}
  {essence : α → β} {closing : Char}

/-- Items, each after a comma. -/
def separated (print : α → String) (items : List α) : List Char :=
  items.flatMap fun item => ',' :: ' ' :: (print item).toList

private theorem separated_begins (comma : follow ',' = true) (close : follow closing = true)
    (items : List α) (rest : List Char) : Begins follow (separated print items ++ closing :: rest) := by
  cases items with
  | nil => exact begins_cons close rest
  | cons item others => exact begins_cons comma _

/-- A list of readable items is read up to the character that closes it. -/
theorem separated_cancel (comma : follow ',' = true) (close : follow closing = true)
    (different : closing ≠ ',') (items others : List α)
    (readable : ∀ item ∈ items, Readable follow print wellFormed essence item)
    (allWellFormed : items.all wellFormed = true) (othersWellFormed : others.all wellFormed = true)
    {rest more : List Char}
    (same : separated print items ++ closing :: rest = separated print others ++ closing :: more) :
    items.map essence = others.map essence ∧ rest = more := by
  induction items generalizing others with
  | nil =>
    cases others with
    | nil => exact ⟨rfl, (List.cons.inj same).2⟩
    | cons other others => exact absurd (List.cons.inj same).1 different
  | cons item items ih =>
    cases others with
    | nil => exact absurd (List.cons.inj same).1.symm different
    | cons other others =>
      simp only [List.all_cons, Bool.and_eq_true] at allWellFormed othersWellFormed
      simp only [separated, List.flatMap_cons, List.cons_append, List.append_assoc] at same
      have inside := (List.cons.inj (List.cons.inj same).2).2
      obtain ⟨firsts, later⟩ := readable item List.mem_cons_self other _ _
        allWellFormed.1 othersWellFormed.1 (separated_begins comma close items rest)
        (separated_begins comma close others more) inside
      obtain ⟨essences, left⟩ := ih others
        (fun next member => readable next (List.mem_cons_of_mem item member))
        allWellFormed.2 othersWellFormed.2 later
      rw [List.map_cons, List.map_cons, firsts, essences]
      exact ⟨rfl, left⟩

end

theorem toList_printChildren (children : List Argument) :
    (printChildren children).toList = separated Argument.print children := by
  induction children with
  | nil => rfl
  | cons child rest ih => simp [printChildren, separated, ih]

private theorem toList_printProperties (properties : List Property) :
    (printProperties properties).toList = separated Property.print properties := by
  induction properties with
  | nil => rfl
  | cons property rest ih => simp [printProperties, separated, ih]

private theorem toList_printFurther (declarators : List (String × Option Argument)) :
    (printFurther declarators).toList = separated printDeclarator declarators := by
  induction declarators with
  | nil => rfl
  | cons declarator rest ih => simp [printFurther, separated, ih]

abbrev Argument.IsReadable : Argument → Prop :=
  Readable isDelimiter Argument.print Argument.wellFormed Argument.essence

abbrev Property.IsReadable : Property → Prop :=
  Readable isDelimiter Property.print Property.wellFormed Property.essence

theorem toList_printAttributes_cons (first : Property) (rest : List Property) :
    (printAttributes (some (first :: rest))).toList =
      '\x7b' :: ' ' :: (first.print.toList ++ (separated Property.print rest ++ [' ', '\x7d'])) := by
  simp [printAttributes, toList_printProperties]

/-- The second argument of a call is told by its first two characters. -/
theorem printAttributes_cancel (attributes other : Option (List Property))
    (readable : ∀ properties, attributes = some properties → ∀ property ∈ properties, property.IsReadable)
    (wellFormed : attributesWellFormed attributes = true)
    (otherWellFormed : attributesWellFormed other = true) {rest more : List Char}
    (same : (printAttributes attributes).toList ++ rest = (printAttributes other).toList ++ more) :
    essenceOfAttributes attributes = essenceOfAttributes other ∧ rest = more := by
  match attributes, other with
  | none, none => exact ⟨rfl, List.append_cancel_left same⟩
  | some [], some [] => exact ⟨rfl, List.append_cancel_left same⟩
  | none, some [] => cases same
  | some [], none => cases same
  | none, some (_ :: _) | some [], some (_ :: _) | some (_ :: _), none | some (_ :: _), some [] =>
    rw [toList_printAttributes_cons] at same
    cases same
  | some (first :: properties), some (other :: others) =>
    have each := readable _ rfl
    simp only [attributesWellFormed, propertiesWellFormed_eq, List.all_cons, Bool.and_eq_true]
      at wellFormed otherWellFormed
    simp only [toList_printAttributes_cons, List.append_assoc, List.cons_append, List.nil_append] at same
    have inside := (List.cons.inj (List.cons.inj same).2).2
    obtain ⟨firsts, later⟩ := each first List.mem_cons_self other _ _ wellFormed.1 otherWellFormed.1
      (separated_begins (by decide) (by decide) properties _)
      (separated_begins (by decide) (by decide) others _) inside
    obtain ⟨essences, left⟩ := separated_cancel (by decide) (by decide) (by decide) properties others
      (fun property member => each property (List.mem_cons_of_mem first member))
      wellFormed.2 otherWellFormed.2 later
    simp only [essenceOfAttributes, essenceOfProperties_eq, List.map_cons, firsts, essences]
    exact ⟨trivial, (List.cons.inj left).2⟩

mutual

theorem Argument.isReadable (argument : Argument) : argument.IsReadable := by
  intro other rest more wellFormed otherWellFormed ends otherEnds same
  cases argument with
  | string value => exact Argument.plain_cancel wellFormed otherWellFormed nofun ends otherEnds same
  | boolean value => exact Argument.plain_cancel wellFormed otherWellFormed nofun ends otherEnds same
  | reference reference => exact Argument.plain_cancel wellFormed otherWellFormed nofun ends otherEnds same
  | create call =>
    by_cases called : ∃ otherCall, other = .create otherCall
    · obtain ⟨otherCall, rfl⟩ := called
      rw [Argument.wellFormed] at wellFormed otherWellFormed
      rw [Argument.print, Argument.print] at same
      obtain ⟨calls, left⟩ := call.print_cancel otherCall wellFormed otherWellFormed same
      rw [Argument.essence, Argument.essence, calls]
      exact ⟨rfl, left⟩
    · have plain : ∀ otherCall, other ≠ .create otherCall :=
        fun otherCall equal => called ⟨otherCall, equal⟩
      obtain ⟨essences, left⟩ := Argument.plain_cancel otherWellFormed wellFormed plain
        otherEnds ends same.symm
      exact ⟨essences.symm, left.symm⟩
termination_by structural argument

theorem CreateCall.print_cancel (call other : CreateCall) (wellFormed : call.wellFormed = true)
    (otherWellFormed : other.wellFormed = true) {rest more : List Char}
    (same : call.print.toList ++ rest = other.print.toList ++ more) :
    call.essence = other.essence ∧ rest = more := by
  cases call with
  | mk tag attributes children span =>
    obtain ⟨otherTag, otherAttributes, otherChildren, otherSpan⟩ := other
    simp only [CreateCall.wellFormed, childrenWellFormed_eq, Bool.and_eq_true] at wellFormed otherWellFormed
    simp only [CreateCall.toList_print, toList_printChildren, List.append_assoc, List.cons_append,
      List.nil_append] at same
    have arguments := (List.cons.inj (List.append_cancel_left same)).2
    obtain ⟨tags, later⟩ := encode_append_inj arguments
    obtain ⟨properties, childrenOn⟩ := printAttributes_cancel attributes otherAttributes
      (attributes_readable attributes) wellFormed.1 otherWellFormed.1
      (List.cons.inj (List.cons.inj later).2).2
    obtain ⟨essences, left⟩ := separated_cancel (by decide) (by decide) (by decide) children otherChildren
      (children_readable children) wellFormed.2 otherWellFormed.2 childrenOn
    rw [CreateCall.essence, CreateCall.essence, String.toList_inj.mp tags, properties,
      essenceOfChildren_eq, essenceOfChildren_eq, essences]
    exact ⟨rfl, left⟩
termination_by structural call

private theorem attributes_readable (attributes : Option (List Property)) :
    ∀ properties, attributes = some properties → ∀ property ∈ properties, property.IsReadable := by
  cases attributes with
  | none => exact nofun
  | some properties =>
    rintro _ ⟨⟩
    exact properties_readable properties
termination_by structural attributes

theorem Property.isReadable (property : Property) : property.IsReadable := by
  intro other rest more wellFormed otherWellFormed ends otherEnds same
  cases property with
  | mk key value =>
    obtain ⟨otherKey, otherValue⟩ := other
    simp only [Property.wellFormed, Bool.and_eq_true] at wellFormed otherWellFormed
    simp only [Property.toList_print, List.append_assoc, List.cons_append] at same
    obtain ⟨rfl, later⟩ := Key.print_cancel wellFormed.1 otherWellFormed.1 same
    obtain ⟨values, left⟩ := value.isReadable otherValue rest more wellFormed.2 otherWellFormed.2
      ends otherEnds (List.cons.inj later).2
    rw [Property.essence, Property.essence, values]
    exact ⟨rfl, left⟩
termination_by structural property

private theorem properties_readable (properties : List Property) :
    ∀ property ∈ properties, property.IsReadable := by
  cases properties with
  | nil => exact nofun
  | cons first rest => exact List.forall_mem_cons.mpr ⟨first.isReadable, properties_readable rest⟩
termination_by structural properties

private theorem children_readable (children : List Argument) : ∀ child ∈ children, child.IsReadable := by
  cases children with
  | nil => exact nofun
  | cons first rest => exact List.forall_mem_cons.mpr ⟨first.isReadable, children_readable rest⟩
termination_by structural children

end

/-- What may follow a declarator. A blank would announce an initializer. -/
def isDeclaratorEnd (c : Char) : Bool := c = ',' || c = ';'

private theorem Begins.delimiter {rest : List Char} (ends : Begins isDeclaratorEnd rest) :
    Begins isDelimiter rest := by
  intro c member
  have ending := ends c member
  simp only [isDeclaratorEnd, Bool.or_eq_true, decide_eq_true_eq] at ending
  rcases ending with rfl | rfl <;> decide

theorem toList_printDeclarator_some (name : String) (init : Argument) :
    (printDeclarator (name, some init)).toList =
      name.toList ++ ' ' :: '=' :: ' ' :: init.print.toList := by
  simp [printDeclarator]

private theorem declarator_readable (declarator : String × Option Argument) :
    Readable isDeclaratorEnd printDeclarator declaratorWellFormed essenceOfDeclarator declarator := by
  intro other rest more wellFormed otherWellFormed ends otherEnds same
  have blank : isWordChar ' ' = false := by decide
  have announced {rest : List Char} (inside : List Char) (ends : Begins isDeclaratorEnd rest) :
      rest ≠ ' ' :: inside := by
    rintro rfl
    exact absurd (ends ' ' rfl) (by decide)
  obtain ⟨name, _ | init⟩ := declarator
  · obtain ⟨otherName, _ | otherInit⟩ := other
    · obtain ⟨names, left⟩ := run_cancel (isName_word wellFormed) (isName_word otherWellFormed)
        ends.delimiter.stops otherEnds.delimiter.stops same
      rw [String.toList_inj.mp names]
      exact ⟨rfl, left⟩
    · simp only [declaratorWellFormed, Bool.and_eq_true] at otherWellFormed
      rw [toList_printDeclarator_some, List.append_assoc] at same
      obtain ⟨-, left⟩ := run_cancel (isName_word wellFormed) (isName_word otherWellFormed.1)
        ends.delimiter.stops (stops_cons blank _) same
      exact absurd left (announced _ ends)
  · simp only [declaratorWellFormed, Bool.and_eq_true] at wellFormed
    rw [toList_printDeclarator_some, List.append_assoc] at same
    obtain ⟨otherName, _ | otherInit⟩ := other
    · obtain ⟨-, left⟩ := run_cancel (isName_word wellFormed.1) (isName_word otherWellFormed)
        (stops_cons blank _) otherEnds.delimiter.stops same
      exact absurd left.symm (announced _ otherEnds)
    · simp only [declaratorWellFormed, Bool.and_eq_true] at otherWellFormed
      rw [toList_printDeclarator_some, List.append_assoc] at same
      obtain ⟨names, later⟩ := run_cancel (isName_word wellFormed.1) (isName_word otherWellFormed.1)
        (stops_cons blank _) (stops_cons blank _) same
      have inside := (List.cons.inj (List.cons.inj (List.cons.inj later).2).2).2
      obtain ⟨inits, left⟩ := init.isReadable otherInit rest more wellFormed.2 otherWellFormed.2
        ends.delimiter otherEnds.delimiter inside
      simp only [essenceOfDeclarator, Option.map_some, String.toList_inj.mp names, inits]
      exact ⟨trivial, left⟩

theorem toList_printDeclarators_cons (first : String × Option Argument)
    (rest : List (String × Option Argument)) :
    (printDeclarators (first :: rest)).toList =
      (printDeclarator first).toList ++ separated printDeclarator rest := by
  simp [printDeclarators, toList_printFurther]

/-- A declarator has a name, so its text is not empty. -/
theorem printDeclarator_opens (declarator : String × Option Argument)
    (wellFormed : declaratorWellFormed declarator = true) :
    ∃ first rest, (printDeclarator declarator).toList = first :: rest ∧ isWordChar first = true := by
  obtain ⟨name, init⟩ := declarator
  have named : isName name = true := by
    cases init with
    | none => exact wellFormed
    | some init =>
      simp only [declaratorWellFormed, Bool.and_eq_true] at wellFormed
      exact wellFormed.1
  obtain ⟨first, rest, opened, -, inside⟩ := isName_opens named
  cases init with
  | none => exact ⟨first, rest, opened, isNameChar_word inside⟩
  | some init =>
    rw [toList_printDeclarator_some, opened]
    exact ⟨first, _, rfl, isNameChar_word inside⟩

theorem printDeclarators_cancel (declarators others : List (String × Option Argument))
    (wellFormed : declarators.all declaratorWellFormed = true)
    (otherWellFormed : others.all declaratorWellFormed = true) {rest more : List Char}
    (same : (printDeclarators declarators).toList ++ ';' :: rest =
      (printDeclarators others).toList ++ ';' :: more) :
    declarators.map essenceOfDeclarator = others.map essenceOfDeclarator ∧ rest = more := by
  have nonempty {first : String × Option Argument} (named : declaratorWellFormed first = true)
      (front back : List Char) : ';' :: back ≠ (printDeclarator first).toList ++ front := by
    obtain ⟨c, later, opened, inside⟩ := printDeclarator_opens first named
    rw [opened]
    rintro ⟨⟩
    revert inside
    decide
  cases declarators with
  | nil =>
    cases others with
    | nil => exact ⟨rfl, (List.cons.inj same).2⟩
    | cons other others =>
      simp only [List.all_cons, Bool.and_eq_true] at otherWellFormed
      rw [toList_printDeclarators_cons, List.append_assoc] at same
      exact absurd same (nonempty otherWellFormed.1 _ _)
  | cons first declarators =>
    simp only [List.all_cons, Bool.and_eq_true] at wellFormed
    rw [toList_printDeclarators_cons, List.append_assoc] at same
    cases others with
    | nil => exact absurd same.symm (nonempty wellFormed.1 _ _)
    | cons other others =>
      simp only [List.all_cons, Bool.and_eq_true] at otherWellFormed
      rw [toList_printDeclarators_cons, List.append_assoc] at same
      obtain ⟨firsts, later⟩ := declarator_readable first other _ _ wellFormed.1 otherWellFormed.1
        (separated_begins (by decide) (by decide) declarators rest)
        (separated_begins (by decide) (by decide) others more) same
      obtain ⟨essences, left⟩ := separated_cancel (by decide) (by decide) (by decide) declarators others
        (fun declarator _ => declarator_readable declarator) wellFormed.2 otherWellFormed.2 later
      rw [List.map_cons, List.map_cons, firsts, essences]
      exact ⟨rfl, left⟩

end LogicFree.Output
