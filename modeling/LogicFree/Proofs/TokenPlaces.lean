import LogicFree.Proofs.ParseSteps
import LogicFree.Proofs.PlacedScripts
import LogicFree.Script.Markup

/-! Tokens and the names in tags, found again in the text. A token begins at the place of the
cursor, and a cursor that has passed a name follows it in the text. -/

namespace LogicFree.Script

variable {source : List Char}

private theorem TagWords.length_pos {here rest : Input} {names : List String}
    (words : TagWords here names rest) : 0 < names.length := by
  cases words <;> simp

private theorem Place.length_le (place : Place source) : place.chars.length ≤ source.length := by
  obtain ⟨passed, split, -⟩ := place.ahead
  have whole := congrArg List.length split
  rw [List.length_append] at whole
  exact whole ▸ Nat.le_add_left ..

private theorem markAt?_opens {chars found : List Char} (mark : markAt? chars = some found) :
    found <+: chars := by
  unfold markAt? at mark
  split at mark
  next search =>
    have holds := List.find?_some search
    have opens := List.isPrefixOf_iff_prefix.mp holds
    split at mark <;> cases mark
    · exact List.IsPrefix.trans ⟨['.'], rfl⟩ opens
    · exact opens
  next =>
    have holds := List.find?_some mark
    exact List.isPrefixOf_iff_prefix.mp holds

/-- What a number or a mark is in the text. Of other tokens nothing is said. -/
def Token.StandsAt (here next : Input) : Token → Prop
  | .number bits => ∃ rest, NumberLiteral.read? here.chars = some (.double bits, rest) ∧
      next = here.drop (here.chars.length - rest.length)
  | .mark text => text.toList <+: here.chars ∧ next = here.drop text.toList.length
  | .word .. | .hashWord _ | .bigint | .string _ | .tick | .finish | .invalid => True

private theorem readToken_stands (bound : Nat) (newline : Bool) (input : Input) :
    (readToken bound newline input).1.StandsAt input (readToken bound newline input).2 := by
  unfold readToken
  split
  · trivial
  split
  · split <;> trivial
  split
  · split
    next literal rest read =>
      cases literal with
      | double bits => exact ⟨rest, read, rfl⟩
      | bigint => trivial
    next => trivial
  split
  · split <;> trivial
  split
  · trivial
  split
  · split <;> trivial
  split
  · trivial
  split
  next chars mark =>
    show (String.ofList chars).toList <+: _ ∧ _ = input.drop (String.ofList chars).toList.length
    rw [String.toList_ofList]
    exact ⟨markAt?_opens mark, rfl⟩
  next => trivial

theorem Cursor.stands (cursor : Cursor source) :
    cursor.token.StandsAt cursor.here.toInput cursor.next.toInput := by
  obtain invalid | found := cursor.read
  · rw [invalid]
    trivial
  · have stands := readToken_stands cursor.bound cursor.newline cursor.here.toInput
    rwa [found] at stands

theorem Cursor.number_placed (cursor : Cursor source) {bits : UInt64}
    (number : cursor.token = .number bits) : NumberStands source cursor.span bits := by
  have stands := cursor.stands
  rw [number] at stands
  obtain ⟨rest, read, moved⟩ := stands
  obtain ⟨raw, whole, -⟩ := NumberLiteral.read?_alone read
  have length : cursor.here.chars.length - rest.length = raw.length := by
    rw [whole, List.length_append, Nat.add_sub_cancel]
  have stop : cursor.next.pos = cursor.here.pos + Text.byteLength raw := by
    rw [moved, length, Input.drop, whole, List.take_left]
  exact ⟨cursor.here, raw, rest, rfl, stop, whole, read⟩

/-- A mark of one character. -/
theorem Cursor.mark_stands (cursor : Cursor source) {text : String} {c : Char}
    (mark : cursor.token = .mark text) (one : text.toList = [c]) :
    cursor.here.chars.head? = some c ∧ cursor.next.toInput = cursor.here.toInput.drop 1 := by
  have stands := cursor.stands
  rw [mark] at stands
  obtain ⟨⟨rest, opens⟩, moved⟩ := stands
  rw [one] at opens moved
  exact ⟨by rw [← opens]; rfl, moved⟩

/-- The cursor is at the first token behind a point of the text. -/
structure Cursor.Follows (cursor : Cursor source) (rest : Input) : Prop where
  here_eq : cursor.here.toInput = rest.trimmed
  last_eq : cursor.last = rest.pos

private theorem Cursor.find_follows {bound : Nat} (enough : source.length < bound) (place : Place source) :
    (Cursor.find enough place place.pos).Follows place.toInput := by
  unfold Cursor.find
  dsimp only
  split <;> exact ⟨rfl, rfl⟩

private theorem Cursor.advance_follows (cursor : Cursor source) :
    cursor.advance.Follows cursor.next.toInput := find_follows ..

namespace Parse

/-- Reading goes on behind the place that it is sent to. -/
theorem resume_ensures (cursor : Cursor source) (place : Place source) :
    Ensures cursor (resume place) fun _ next => next.Follows place.toInput := by
  rintro _ _ ⟨⟩
  exact Cursor.find_follows ..

end Parse

namespace Grammar

open Parse

theorem tagWord_ensures (cursor : Cursor source) :
    Ensures cursor tagWord fun word next =>
      ∃ rest, TagWord cursor.here.toInput word.1 rest ∧
        word.2 = ⟨cursor.here.pos, rest.pos⟩ ∧ next.Follows rest := by
  simp only [tagWord, ensures_bind, ensures_get]
  split
  next name after found =>
    simp only [ensures_bind]
    refine (resume_ensures _ _).mono fun _ next follows => ?_
    rw [ensures_pure]
    refine ⟨after, ⟨cursor.bound, name.escaped, ?_, found⟩, rfl, follows⟩
    exact Nat.le_of_lt (Nat.lt_of_le_of_lt cursor.here.length_le cursor.enough)
  next => simp

/-- A mark that is passed between the words of a tag. -/
theorem mark_follows {cursor : Cursor source} {rest : Input} {text : String} {c : Char}
    (follows : cursor.Follows rest) (mark : cursor.token = .mark text) (one : text.toList = [c]) :
    rest.trimmed.chars.head? = some c ∧ cursor.advance.Follows (rest.trimmed.drop 1) := by
  obtain ⟨opens, moved⟩ := cursor.mark_stands mark one
  rw [follows.here_eq] at opens moved
  exact ⟨opens, moved ▸ cursor.advance_follows⟩

/-- The words of a tag that have been read, the last one first, and the cursor behind them. -/
def TagParts (here : Input) (parts : List String) (cursor : Cursor source) : Prop :=
  ∃ rest, TagWords here parts.reverse rest ∧ cursor.Follows rest

private theorem TagParts.length_pos {here : Input} {parts : List String} {cursor : Cursor source}
    (front : TagParts here parts cursor) : 0 < parts.length := by
  obtain ⟨rest, words, -⟩ := front
  have nonempty := words.length_pos
  rwa [List.length_reverse] at nonempty

theorem TagParts.cons {here : Input} {parts : List String} {cursor : Cursor source}
    (front : TagParts here parts cursor) (point : cursor.token = .mark ".") :
    Ensures cursor.advance tagWord fun word next => TagParts here (word.1 :: parts) next := by
  obtain ⟨rest, words, follows⟩ := front
  obtain ⟨opens, passed⟩ := mark_follows (c := '.') follows point rfl
  refine (tagWord_ensures _).mono ?_
  rintro ⟨name, span⟩ next ⟨stop, word, -, further⟩
  rw [passed.here_eq] at word
  refine ⟨stop, ?_, further⟩
  rw [List.reverse_cons]
  exact .point words opens word

theorem tagName_ensures (cursor : Cursor source) :
    Ensures cursor tagName fun tag next =>
      ∃ rest, tag.StandsAt cursor.here.toInput rest ∧ next.Follows rest := by
  simp only [tagName, ensures_bind]
  refine (tagWord_ensures cursor).mono ?_
  rintro ⟨first, span⟩ middle ⟨rest, word, same, follows⟩
  cases same
  simp only [ensures_bind, ensures_eatMark, ensures_ite, if_true, Bool.false_eq_true, if_false,
    ensures_pure, ensures_isMark]
  split
  next colon =>
    obtain ⟨opens, passed⟩ := mark_follows (c := ':') follows colon rfl
    refine (tagWord_ensures _).mono ?_
    rintro ⟨name, last⟩ final ⟨stop, second, same, further⟩
    rw [passed.here_eq] at second
    exact ⟨stop, ⟨rest, word, opens, second⟩, further⟩
  split
  next => exact ⟨rest, word, follows⟩
  next noColon plain =>
    have point : middle.token = .mark "." := by simpa using plain
    -- As long as there is only one word, a point follows it.
    refine (Ensures.repeated
      (fun parts current => TagParts cursor.here.toInput parts current ∧
        (2 ≤ parts.length ∨ current.token = .mark "."))
      (fun parts current => TagParts cursor.here.toInput parts current ∧ 2 ≤ parts.length)
      ?_ ?_).mono ?_
    · exact ⟨⟨rest, .first word, follows⟩, .inr point⟩
    · rintro parts current ⟨front, more⟩
      simp only [ensures_bind, ensures_eatMark, ensures_ite, if_true, Bool.false_eq_true, if_false,
        ensures_pure]
      split
      next point =>
        refine (front.cons point).mono ?_
        intro word next longer
        exact ⟨longer, .inl (Nat.succ_le_succ front.length_pos)⟩
      next noPoint => exact ⟨front, more.resolve_right noPoint⟩
    · rintro parts final ⟨⟨stop, words, further⟩, several⟩
      rw [ensures_spanFrom]
      refine ⟨stop, ⟨words, ?_, ?_⟩, further⟩
      · rwa [List.length_reverse]
      · rw [further.last_eq]

end Grammar

end LogicFree.Script
