import LogicFree.Text.Bytes
import LogicFree.Text.Lines

/-! A text cut at its line feeds. The segments before one of them stand with the line
feeds that close them, and those after it with the line feeds that open them. The lines
of a text are its segments, less a carriage return before a line feed, and less an empty
segment behind the last line feed. -/

namespace LogicFree.Text

theorem byteLength_ofList (text : List Char) : (String.ofList text).utf8ByteSize = byteLength text := by
  induction text with
  | nil => rfl
  | cons c rest ih =>
    rw [String.ofList_cons, String.utf8ByteSize_append, String.utf8ByteSize_singleton, ih, byteLength_cons]

theorem byteLength_toList (source : String) : byteLength source.toList = source.utf8ByteSize := by
  rw [← byteLength_ofList, String.ofList_toList]

/-- Segments, each with the line feed behind it. -/
def closed (segments : List (List Char)) : List Char := segments.flatMap (· ++ ['\n'])

/-- Segments, each with the line feed before it. -/
def opened (segments : List (List Char)) : List Char := segments.flatMap ('\n' :: ·)

@[simp] theorem closed_nil : closed [] = [] := rfl

@[simp] theorem closed_cons (segment : List Char) (rest : List (List Char)) :
    closed (segment :: rest) = segment ++ '\n' :: closed rest := by
  simp [closed]

@[simp] theorem closed_concat (segments : List (List Char)) (last : List Char) :
    closed (segments ++ [last]) = closed segments ++ last ++ ['\n'] := by
  simp [closed]

@[simp] theorem opened_nil : opened [] = [] := rfl

@[simp] theorem opened_cons (segment : List Char) (rest : List (List Char)) :
    opened (segment :: rest) = '\n' :: segment ++ opened rest := by
  simp [opened]

/-- Closed segments take up their own bytes and one for each line feed. -/
theorem byteLength_closed (segments : List (List Char)) :
    byteLength (closed segments) = byteLength segments.flatten + segments.length := by
  induction segments with
  | nil => rfl
  | cons segment rest ih =>
    have lineFeed : Char.utf8Size '\n' = 1 := rfl
    simp only [closed_cons, List.flatten_cons, byteLength_append, byteLength_cons, ih, lineFeed, List.length_cons]
    omega

private theorem intercalate_opened (segment : List Char) (after : List (List Char)) :
    ['\n'].intercalate (segment :: after) = segment ++ opened after := by
  induction after generalizing segment with
  | nil => simp
  | cons next after ih =>
    rw [List.intercalate_cons_cons, ih next]
    simp

private theorem intercalate_segments (before : List (List Char)) (segment : List Char) (after : List (List Char)) :
    ['\n'].intercalate (before ++ segment :: after) = closed before ++ segment ++ opened after := by
  induction before with
  | nil => exact intercalate_opened segment after
  | cons first before ih =>
    have more : before ++ segment :: after ≠ [] := by simp
    rw [List.cons_append, List.intercalate_cons_of_ne_nil more, ih]
    simp

theorem eq_of_segments {text segment : List Char} {before after : List (List Char)}
    (cut : text.splitOn '\n' = before ++ segment :: after) :
    text = closed before ++ segment ++ opened after := by
  rw [← intercalate_segments, ← cut, List.intercalate_splitOn]

theorem segments_eq {segment : List Char} {before after : List (List Char)}
    (free : ∀ part ∈ before ++ segment :: after, '\n' ∉ part) :
    (closed before ++ segment ++ opened after).splitOn '\n' = before ++ segment :: after := by
  rw [← intercalate_segments]
  exact List.splitOn_intercalate '\n' free (by simp)

theorem segments_free (text : List Char) : ∀ segment ∈ text.splitOn '\n', '\n' ∉ segment := by
  induction text with
  | nil => simp
  | cons c rest ih =>
    obtain ⟨first, others, cut⟩ := List.exists_cons_of_ne_nil (List.splitOn_ne_nil '\n' rest)
    rw [List.splitOn_cons_eq_if_modifyHead]
    rw [cut, List.forall_mem_cons] at ih
    by_cases lineFeed : c = '\n'
    · rw [if_pos (beq_iff_eq.mpr lineFeed), cut]
      exact List.forall_mem_cons.mpr ⟨List.not_mem_nil, List.forall_mem_cons.mpr ih⟩
    · rw [if_neg (by simpa using lineFeed), cut, List.modifyHead_cons]
      refine List.forall_mem_cons.mpr ⟨?_, ih.2⟩
      rw [List.mem_cons, not_or]
      exact ⟨fun same => lineFeed same.symm, ih.1⟩

theorem splitOn_closed (segments : List (List Char)) (free : ∀ segment ∈ segments, '\n' ∉ segment)
    (rest : List Char) : (closed segments ++ rest).splitOn '\n' = segments ++ rest.splitOn '\n' := by
  induction segments with
  | nil => rfl
  | cons segment segments ih =>
    rw [List.forall_mem_cons] at free
    rw [closed_cons, List.append_assoc, List.cons_append,
      List.splitOn_append_cons_self_of_not_mem free.1, ih free.2, List.cons_append]

/-- A segment less one carriage return at its end. -/
def withoutReturn (segment : List Char) : List Char :=
  if segment.getLast? = some '\r' then segment.dropLast else segment

/-- A segment as it is shown: a carriage return before a line feed goes with the line
feed, one at the end of the text stays. -/
def asLine (segment : List Char) (after : List (List Char)) : List Char :=
  if after = [] then segment else withoutReturn segment

private theorem withoutReturn_isPrefix (segment : List Char) : withoutReturn segment <+: segment := by
  unfold withoutReturn
  split
  · exact List.dropLast_prefix segment
  · exact List.prefix_rfl

theorem asLine_isPrefix (segment : List Char) (after : List (List Char)) : asLine segment after <+: segment := by
  unfold asLine
  split
  · exact List.prefix_rfl
  · exact withoutReturn_isPrefix segment

/-- Only a carriage return that ends the segment is dropped, so whatever stands before
another character is kept. -/
theorem asLine_append_cons (front : List Char) {c : Char} (back : List Char) (after : List (List Char))
    (other : c ≠ '\r') : ∃ kept, asLine (front ++ c :: back) after = front ++ c :: kept := by
  unfold asLine withoutReturn
  split
  · exact ⟨back, rfl⟩
  split
  next ends =>
    cases back with
    | nil =>
      rw [List.getLast?_concat] at ends
      exact absurd (Option.some.inj ends) other
    | cons next rest => exact ⟨(next :: rest).dropLast, by rw [List.dropLast_append_cons, List.dropLast_cons_cons]⟩
  next => exact ⟨back, rfl⟩

private theorem withoutReturn_cons_cons (c next : Char) (rest : List Char) :
    withoutReturn (c :: next :: rest) = c :: withoutReturn (next :: rest) := by
  unfold withoutReturn
  rw [List.getLast?_cons_cons]
  split <;> rfl

private theorem lines_closed_segment (segment : List Char) (free : '\n' ∉ segment) (rest : List Char) :
    lines (segment ++ '\n' :: rest) = withoutReturn segment :: lines rest := by
  induction segment with
  | nil => rfl
  | cons c segment ih =>
    rw [List.mem_cons, not_or] at free
    have plain : c = '\n' → False := fun same => free.1 same.symm
    cases segment with
    | nil =>
      by_cases carriage : c = '\r'
      · subst carriage
        rfl
      · rw [List.cons_append, lines, if_neg (fun returned => carriage returned.1), ih free.2]
        · simp [withoutReturn, carriage]
        · exact plain
    | cons next segment =>
      have kept : ¬(c = '\r' ∧ (next :: segment ++ '\n' :: rest).head? = some '\n') := by
        intro returned
        exact free.2 (Option.some.inj returned.2 ▸ List.mem_cons_self)
      rw [List.cons_append, lines, if_neg kept, ih free.2]
      · rw [withoutReturn_cons_cons]
      · exact plain

private theorem lines_last_segment (segment : List Char) (free : '\n' ∉ segment) :
    lines segment = if segment = [] then [] else [segment] := by
  induction segment with
  | nil => rfl
  | cons c segment ih =>
    rw [List.mem_cons, not_or] at free
    have kept : ¬(c = '\r' ∧ segment.head? = some '\n') := by
      intro returned
      exact free.2 (List.mem_of_mem_head? returned.2)
    rw [lines, if_neg kept, ih free.2]
    · cases segment <;> rfl
    · exact fun same => free.1 same.symm

theorem lines_closed (segments : List (List Char)) (free : ∀ segment ∈ segments, '\n' ∉ segment)
    (rest : List Char) : lines (closed segments ++ rest) = segments.map withoutReturn ++ lines rest := by
  induction segments with
  | nil => rfl
  | cons segment segments ih =>
    rw [List.forall_mem_cons] at free
    rw [closed_cons, List.append_assoc, List.cons_append, lines_closed_segment segment free.1, ih free.2]
    rfl

/-- Lines are numbered as segments are. The one segment that is no line is an empty one
at the end of the text. -/
theorem lines_getElem? {text segment : List Char} {before after : List (List Char)}
    (cut : text.splitOn '\n' = before ++ segment :: after) :
    (lines text)[before.length]? =
      if after = [] ∧ segment = [] then none else some (asLine segment after) := by
  have free := segments_free text
  rw [cut, List.forall_mem_append, List.forall_mem_cons] at free
  obtain ⟨freeBefore, freeHere, -⟩ := free
  rw [eq_of_segments cut, List.append_assoc, lines_closed before freeBefore,
    List.getElem?_append_right (by simp), List.length_map, Nat.sub_self]
  cases after with
  | nil =>
    rw [opened_nil, List.append_nil, lines_last_segment segment freeHere]
    by_cases empty : segment = [] <;> simp [empty, asLine]
  | cons next after =>
    rw [opened_cons, List.cons_append, lines_closed_segment segment freeHere]
    simp [asLine]

end LogicFree.Text
