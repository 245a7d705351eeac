import LogicFree.Proofs.OutputForms

/-! The bare words of printed code: booleans, numbers, names and chains. A word ends
at the first blank or mark, and its characters tell which of these it is. -/

namespace LogicFree.Output

/-- What follows a run of characters does not continue it. -/
def Stops (test : Char → Bool) (rest : List Char) : Prop :=
  ∀ c ∈ rest.head?, test c = false

theorem stops_cons {test : Char → Bool} {c : Char} (outside : test c = false) (rest : List Char) :
    Stops test (c :: rest) := by
  rintro d ⟨⟩
  exact outside

/-- Two texts that begin with a run of one kind, and are equal, have equal runs. -/
theorem run_cancel {test : Char → Bool} {front other rest more : List Char}
    (inFront : ∀ c ∈ front, test c = true) (inOther : ∀ c ∈ other, test c = true)
    (stops : Stops test rest) (stopsOther : Stops test more) (same : front ++ rest = other ++ more) :
    front = other ∧ rest = more := by
  induction front generalizing other with
  | nil =>
    cases other with
    | nil => exact ⟨rfl, same⟩
    | cons c others =>
      have continued := stops c (by rw [List.nil_append] at same; rw [same]; rfl)
      rw [inOther c List.mem_cons_self] at continued
      cases continued
  | cons c front ih =>
    cases other with
    | nil =>
      have continued := stopsOther c (by rw [List.nil_append] at same; rw [← same]; rfl)
      rw [inFront c List.mem_cons_self] at continued
      cases continued
    | cons d others =>
      obtain ⟨rfl, later⟩ := List.cons.inj same
      obtain ⟨rfl, left⟩ := ih (fun e member => inFront e (List.mem_cons_of_mem c member))
        (fun e member => inOther e (List.mem_cons_of_mem c member)) later
      exact ⟨rfl, left⟩

theorem isName_opens {text : String} (name : isName text = true) :
    ∃ first rest, text.toList = first :: rest ∧ first.isDigit = false ∧ isNameChar first = true := by
  unfold isName at name
  split at name
  · cases name
  next first rest opened =>
    simp only [Bool.and_eq_true, Bool.not_eq_true', List.all_cons] at name
    exact ⟨first, rest, opened, name.1, name.2.1⟩

private theorem isName_chars {text : String} (name : isName text = true) :
    ∀ c ∈ text.toList, isNameChar c = true := by
  unfold isName at name
  split at name
  · cases name
  next first rest opened =>
    simp only [Bool.and_eq_true, List.all_eq_true] at name
    rw [opened]
    exact name.2

theorem isNameChar_word {c : Char} (name : isNameChar c = true) : isWordChar c = true := by
  simp only [isNameChar, Bool.and_eq_true] at name
  exact name.1

theorem isName_word {text : String} (name : isName text = true) :
    ∀ c ∈ text.toList, isWordChar c = true :=
  fun c member => isNameChar_word (isName_chars name c member)

private theorem isNumberText_chars {text : String} (number : isNumberText text = true) :
    (∃ first rest, text.toList = first :: rest ∧ (first.isDigit = true ∨ first = '.')) ∧
      ∀ c ∈ text.toList, isWordChar c = true := by
  unfold isNumberText at number
  split at number
  · cases number
  next first rest opened =>
    simp only [Bool.and_eq_true, Bool.or_eq_true, decide_eq_true_eq, List.all_eq_true] at number
    exact ⟨⟨first, rest, opened, number.1⟩, by rw [opened]; exact number.2⟩

private theorem Reference.toList_print_member (object : Reference) (property : String) :
    (Reference.member object property).print.toList =
      object.print.toList ++ '.' :: property.toList := by
  simp [print]

theorem Reference.chain_chars (reference : Reference) (chain : reference.isChain = true)
    (wellFormed : reference.wellFormed = true) :
    (∃ first rest, reference.print.toList = first :: rest ∧ first.isDigit = false ∧ first ≠ '.') ∧
      ∀ c ∈ reference.print.toList, isWordChar c = true := by
  induction reference with
  | identifier name =>
    simp only [Reference.wellFormed, Bool.and_eq_true] at wellFormed
    obtain ⟨first, rest, opened, digit, inside⟩ := isName_opens wellFormed.1.1
    simp only [isNameChar, Bool.and_eq_true, decide_eq_true_eq] at inside
    exact ⟨⟨first, rest, opened, digit, inside.2⟩, isName_word wellFormed.1.1⟩
  | literal value => cases chain
  | member object property ih =>
    simp only [Reference.wellFormed, Bool.and_eq_true] at wellFormed
    obtain ⟨⟨rooted, object'⟩, name⟩ := wellFormed
    obtain ⟨⟨first, rest, opened, start⟩, inside⟩ := ih rooted object'
    rw [toList_print_member]
    refine ⟨⟨first, rest ++ '.' :: property.toList, by rw [opened]; rfl, start⟩, ?_⟩
    intro c member
    rcases List.mem_append.mp member with before | after
    · exact inside c before
    · rcases List.mem_cons.mp after with rfl | later
      · decide
      · exact isName_word name c later

/-- A name is no longer chain, because names hold no dots. -/
theorem Reference.name_ne_member {name : String} (plain : isName name = true) (object : Reference)
    (property : String) : name.toList ≠ (Reference.member object property).print.toList := by
  intro equal
  have dot := isName_chars plain '.' (by rw [equal, toList_print_member]; simp)
  revert dot
  decide

/-- The last property of a chain is read from the end, up to the last dot. -/
theorem Reference.member_cancel {object other : Reference} {property otherProperty : String}
    (name : isName property = true) (otherName : isName otherProperty = true)
    (same : (Reference.member object property).print.toList =
      (Reference.member other otherProperty).print.toList) :
    object.print.toList = other.print.toList ∧ property = otherProperty := by
  rw [toList_print_member, toList_print_member] at same
  have reversed := congrArg List.reverse same
  simp only [List.reverse_append, List.reverse_cons, List.append_assoc, List.singleton_append] at reversed
  have dot : isNameChar '.' = false := by decide
  obtain ⟨properties, objects⟩ := run_cancel
    (fun c member => isName_chars name c (List.mem_reverse.mp member))
    (fun c member => isName_chars otherName c (List.mem_reverse.mp member)) (stops_cons dot _) (stops_cons dot _) reversed
  exact ⟨List.reverse_inj.mp (List.cons.inj objects).2, String.toList_inj.mp (List.reverse_inj.mp properties)⟩

private theorem Reference.chain_injective (reference other : Reference)
    (chain : reference.isChain = true) (otherChain : other.isChain = true)
    (wellFormed : reference.wellFormed = true) (otherWellFormed : other.wellFormed = true)
    (same : reference.print.toList = other.print.toList) : reference = other := by
  induction reference generalizing other with
  | literal value => cases chain
  | identifier name =>
    simp only [Reference.wellFormed, Bool.and_eq_true] at wellFormed
    cases other with
    | literal value => cases otherChain
    | identifier otherName => exact congrArg Reference.identifier (String.toList_inj.mp same)
    | member object property => exact absurd same (name_ne_member wellFormed.1.1 object property)
  | member object property ih =>
    simp only [Reference.wellFormed, Bool.and_eq_true] at wellFormed
    cases other with
    | literal value => cases otherChain
    | identifier otherName =>
      simp only [Reference.wellFormed, Bool.and_eq_true] at otherWellFormed
      exact absurd same.symm (name_ne_member otherWellFormed.1.1 object property)
    | member otherObject otherProperty =>
      simp only [Reference.wellFormed, Bool.and_eq_true] at otherWellFormed
      obtain ⟨objects, rfl⟩ := member_cancel wellFormed.2 otherWellFormed.2 same
      rw [ih otherObject wellFormed.1.1 otherWellFormed.1.1 wellFormed.1.2 otherWellFormed.1.2 objects]

theorem Reference.essence_of_chain (reference : Reference) (chain : reference.isChain = true) :
    reference.essence = reference := by
  induction reference with
  | identifier name => rfl
  | literal value => cases chain
  | member object property ih => rw [essence, ih chain]

/-- The words of the code, with the argument that each of them is. -/
inductive Word : Argument → List Char → Prop where
  | boolean (value : Bool) : Word (.boolean value) (booleanText value).toList
  | number {raw : String} (number : isNumberText raw = true) :
      Word (.reference (.literal (.number 0 raw {}))) raw.toList
  | chain {reference : Reference} (chain : reference.isChain = true)
      (wellFormed : reference.wellFormed = true) : Word (.reference reference) reference.print.toList

theorem Word.chars {argument : Argument} {word : List Char} (spelled : Word argument word) :
    (∃ first rest, word = first :: rest) ∧ ∀ c ∈ word, isWordChar c = true := by
  cases spelled with
  | boolean value => cases value <;> exact ⟨⟨_, _, rfl⟩, List.all_eq_true.mp (by decide)⟩
  | number number =>
    obtain ⟨⟨first, rest, opened, -⟩, inside⟩ := isNumberText_chars number
    exact ⟨⟨first, rest, opened⟩, inside⟩
  | @chain reference chain wellFormed =>
    obtain ⟨⟨first, rest, opened, -⟩, inside⟩ := reference.chain_chars chain wellFormed
    exact ⟨⟨first, rest, opened⟩, inside⟩

private theorem boolean_ne_number (value : Bool) {raw : String} (number : isNumberText raw = true) :
    (booleanText value).toList ≠ raw.toList := by
  intro same
  obtain ⟨⟨first, rest, opened, start⟩, -⟩ := isNumberText_chars number
  rw [opened] at same
  cases value with
  | true =>
    obtain ⟨rfl, -⟩ := List.cons.inj (show 't' :: ['r', 'u', 'e'] = first :: rest from same)
    revert start
    decide
  | false =>
    obtain ⟨rfl, -⟩ := List.cons.inj (show 'f' :: ['a', 'l', 's', 'e'] = first :: rest from same)
    revert start
    decide

private theorem boolean_ne_chain (value : Bool) {reference : Reference} (chain : reference.isChain = true)
    (wellFormed : reference.wellFormed = true) :
    (booleanText value).toList ≠ reference.print.toList := by
  have plain : isName (booleanText value) = true := by cases value <;> decide
  intro same
  cases reference with
  | literal value => cases chain
  | member object property => exact Reference.name_ne_member plain object property same
  | identifier name =>
    have spelled : name = booleanText value := (String.toList_inj.mp same).symm
    subst name
    simp only [Reference.wellFormed, Bool.and_eq_true, decide_eq_true_eq] at wellFormed
    cases value with
    | true => exact wellFormed.1.2 rfl
    | false => exact wellFormed.2 rfl

private theorem number_ne_chain {raw : String} (number : isNumberText raw = true) {reference : Reference}
    (chain : reference.isChain = true) (wellFormed : reference.wellFormed = true) :
    raw.toList ≠ reference.print.toList := by
  intro same
  obtain ⟨⟨first, rest, opened, start⟩, -⟩ := isNumberText_chars number
  obtain ⟨⟨c, others, printed, digit, dot⟩, -⟩ := reference.chain_chars chain wellFormed
  rw [opened, printed] at same
  obtain ⟨rfl, -⟩ := List.cons.inj same
  rcases start with isDigit | isDot
  · rw [digit] at isDigit
    cases isDigit
  · exact dot isDot

/-- A word is a word of one argument only. -/
theorem Word.unique {argument other : Argument} {word otherWord : List Char}
    (spelled : Word argument word) (otherSpelled : Word other otherWord) (same : word = otherWord) :
    argument = other := by
  cases spelled with
  | boolean value =>
    cases otherSpelled with
    | boolean otherValue => cases value <;> cases otherValue <;> first | rfl | exact absurd same (by decide)
    | number number => exact absurd same (boolean_ne_number value number)
    | chain chain wellFormed => exact absurd same (boolean_ne_chain value chain wellFormed)
  | number number =>
    cases otherSpelled with
    | boolean value => exact absurd same.symm (boolean_ne_number value number)
    | number other => rw [String.toList_inj.mp same]
    | chain chain wellFormed => exact absurd same (number_ne_chain number chain wellFormed)
  | chain chain wellFormed =>
    cases otherSpelled with
    | boolean value => exact absurd same.symm (boolean_ne_chain value chain wellFormed)
    | number number => exact absurd same.symm (number_ne_chain number chain wellFormed)
    | chain otherChain otherWellFormed =>
      rw [Reference.chain_injective _ _ chain otherChain wellFormed otherWellFormed same]

end LogicFree.Output
