import Mathlib.Data.List.Basic
import Mathlib.Data.Prod.Lex
import LogicFree.Proofs.ReportLayout

/-! Places of byte offsets. An offset has passed the characters that begin before it:
whole lines with their line feeds, and the front of one more segment. The place counts
the two, so places stand in the order of their offsets, and where a character begins the
place leads back to the offset. A report shows the place that was stored. -/

namespace LogicFree.Text

/-- The characters that begin before an offset. -/
def passed : List Char → Nat → List Char
  | _, 0 => []
  | [], _ + 1 => []
  | c :: rest, offset + 1 => c :: passed rest (offset + 1 - c.utf8Size)

@[simp] theorem passed_zero (text : List Char) : passed text 0 = [] := by
  cases text <;> rfl

@[simp] theorem passed_nil (offset : Nat) : passed [] offset = [] := by
  cases offset <;> rfl

theorem passed_cons (c : Char) (rest : List Char) {offset : Nat} (ahead : 0 < offset) :
    passed (c :: rest) offset = c :: passed rest (offset - c.utf8Size) := by
  obtain ⟨before, rfl⟩ := Nat.exists_eq_add_one.mpr ahead
  rfl

/-- At the boundary behind a front part exactly this part is passed. -/
theorem passed_front {text front back : List Char} (cut : text = front ++ back) :
    passed text (byteLength front) = front := by
  induction front generalizing text with
  | nil => exact passed_zero text
  | cons c front ih =>
    have wide := c.utf8Size_pos
    rw [cut, List.cons_append, byteLength_cons, passed_cons c _ (by omega), Nat.add_sub_cancel_left, ih rfl]

theorem passed_all (text : List Char) {offset : Nat} (beyond : byteLength text ≤ offset) :
    passed text offset = text := by
  induction text generalizing offset with
  | nil => exact passed_nil offset
  | cons c rest ih =>
    have wide := c.utf8Size_pos
    rw [byteLength_cons] at beyond
    rw [passed_cons c rest (by omega), ih (by omega)]

private theorem passed_mono (text : List Char) {offset later : Nat} (le : offset ≤ later) :
    passed text offset <+: passed text later := by
  induction text generalizing offset later with
  | nil => simp
  | cons c rest ih =>
    by_cases start : offset = 0
    · rw [start, passed_zero]
      exact List.nil_prefix
    · rw [passed_cons c rest (by omega), passed_cons c rest (by omega)]
      exact (List.prefix_cons_inj c).mpr (ih (by omega))

private theorem passed_isPrefix (text : List Char) (offset : Nat) : passed text offset <+: text := by
  have all := passed_mono text (Nat.le_max_left offset (byteLength text))
  rwa [passed_all text (Nat.le_max_right offset (byteLength text))] at all

private theorem le_byteLength_passed (text : List Char) (offset : Nat) :
    min offset (byteLength text) ≤ byteLength (passed text offset) := by
  induction text generalizing offset with
  | nil => simp
  | cons c rest ih =>
    by_cases start : offset = 0
    · omega
    · have later := ih (offset - c.utf8Size)
      rw [passed_cons c rest (by omega), byteLength_cons, byteLength_cons]
      omega

/-- Every passed character begins before the offset. -/
theorem begins_before {text front back : List Char} {c : Char} {offset : Nat}
    (same : passed text offset = front ++ c :: back) : byteLength front < offset := by
  induction text generalizing offset front with
  | nil => simp at same
  | cons first rest ih =>
    have ahead : 0 < offset := by
      apply Nat.pos_of_ne_zero
      intro start
      simp [start] at same
    cases front with
    | nil => exact ahead
    | cons d front =>
      rw [passed_cons first rest ahead, List.cons_append] at same
      obtain ⟨rfl, further⟩ := List.cons.inj same
      have later := ih further
      rw [byteLength_cons]
      omega

/-- Where an offset lies in a text: behind closed segments, and on a segment whose front
it has passed. -/
structure Site (text : List Char) (offset : Nat) where
  before : List (List Char)
  front : List Char
  ahead : List Char
  after : List (List Char)
  segments : text.splitOn '\n' = before ++ (front ++ ahead) :: after
  passed_eq : passed text offset = closed before ++ front

theorem exists_site (text : List Char) (offset : Nat) : Nonempty (Site text offset) := by
  -- The passed part and the rest are cut apart. The last segment of the one and the first of
  -- the other make up the segment that the offset lies on.
  obtain ⟨rest, whole⟩ := passed_isPrefix text offset
  obtain ⟨ahead, after, cutRest⟩ := List.exists_cons_of_ne_nil (List.splitOn_ne_nil '\n' rest)
  obtain ⟨before, front, cutFront⟩ :=
    (List.eq_nil_or_concat' ((passed text offset).splitOn '\n')).resolve_left (List.splitOn_ne_nil _ _)
  have opens : passed text offset = closed before ++ front := by
    have joined := eq_of_segments cutFront
    simpa using joined
  have closes : rest = ahead ++ opened after := by
    have joined : rest = closed [] ++ ahead ++ opened after := eq_of_segments cutRest
    simpa using joined
  have freeFront := segments_free (passed text offset)
  have freeRest := segments_free rest
  rw [cutFront, List.forall_mem_append, List.forall_mem_singleton] at freeFront
  rw [cutRest, List.forall_mem_cons] at freeRest
  refine ⟨⟨before, front, ahead, after, ?_, opens⟩⟩
  have joined : text = closed before ++ (front ++ ahead) ++ opened after := by
    rw [← whole, opens, closes]
    simp
  rw [joined]
  apply segments_eq
  rw [List.forall_mem_append, List.forall_mem_cons, List.mem_append, not_or]
  exact ⟨freeFront.1, ⟨freeFront.2, freeRest.1⟩, freeRest.2⟩

namespace Site

variable {text : List Char} {offset : Nat}

theorem text_eq (site : Site text offset) :
    text = closed site.before ++ (site.front ++ site.ahead) ++ opened site.after :=
  eq_of_segments site.segments

private theorem before_free (site : Site text offset) : ∀ segment ∈ site.before, '\n' ∉ segment := by
  have free := segments_free text
  rw [site.segments, List.forall_mem_append] at free
  exact free.1

theorem segment_free (site : Site text offset) : '\n' ∉ site.front ++ site.ahead := by
  apply segments_free text
  rw [site.segments]
  simp

theorem front_free (site : Site text offset) : '\n' ∉ site.front :=
  fun member => site.segment_free (List.mem_append_left site.ahead member)

/-- What is not passed is the rest of the segment and the segments after it. -/
theorem rest_eq {rest : List Char} (site : Site text offset) (cut : text = passed text offset ++ rest) :
    rest = site.ahead ++ opened site.after := by
  have parts : passed text offset ++ rest = passed text offset ++ (site.ahead ++ opened site.after) := by
    calc passed text offset ++ rest
      _ = text := cut.symm
      _ = closed site.before ++ (site.front ++ site.ahead) ++ opened site.after := site.text_eq
      _ = passed text offset ++ (site.ahead ++ opened site.after) := by
        rw [site.passed_eq]
        simp
  exact List.append_cancel_left parts

/-- A closed segment ends before the offset, since its line feed begins before it. -/
theorem start_le (site : Site text offset) : byteLength (closed site.before) ≤ offset := by
  rcases List.eq_nil_or_concat' site.before with empty | ⟨earlier, last, ends⟩
  · rw [empty]
    exact Nat.zero_le offset
  · have lies : passed text offset = (closed earlier ++ last) ++ '\n' :: site.front := by
      rw [site.passed_eq, ends]
      simp
    have begins := begins_before lies
    have lineFeed : Char.utf8Size '\n' = 1 := rfl
    rw [ends, closed_concat, byteLength_append, byteLength_cons, byteLength_nil, lineFeed]
    omega

theorem le_stop (site : Site text offset) :
    min offset (byteLength text) ≤ byteLength (closed site.before) + byteLength site.front := by
  have reached := le_byteLength_passed text offset
  rwa [site.passed_eq, byteLength_append] at reached

end Site

end LogicFree.Text

namespace LogicFree.Location
open Text

/-- Places in reading order: by line, and on one line by column. -/
def rank (place : Location) : ℕ ×ₗ ℕ := toLex (place.line, place.column)

theorem rank_lt_advance (place : Location) (c : Char) : place.rank < (place.advance c).rank := by
  rw [rank, rank, Prod.Lex.toLex_lt_toLex, advance]
  split
  · exact .inl (Nat.lt_succ_self place.line)
  · exact .inr ⟨rfl, Nat.lt_succ_self place.column⟩

-- The walk counts up to the offset, and `passed` counts down from it.
private theorem after_eq (offset : Nat) (text : List Char) (index : Nat) (place : Location) :
    after offset text index place = (passed text (offset - index)).foldl advance place := by
  induction text generalizing index place with
  | nil => simp [after]
  | cons c rest ih =>
    rw [after]
    split
    next reached => rw [Nat.sub_eq_zero_of_le reached, passed_zero, List.foldl_nil]
    next ahead =>
      rw [passed_cons c rest (by omega), List.foldl_cons, ih, Nat.sub_sub]

/-- The place of an offset is that of the characters it has passed. -/
theorem ofOffset_eq (source : String) (offset : Nat) :
    ofOffset source offset = (passed source.toList offset).foldl advance ⟨1, 1⟩ :=
  after_eq offset source.toList 0 ⟨1, 1⟩

private theorem foldl_advance_free (segment : List Char) (free : '\n' ∉ segment) (place : Location) :
    segment.foldl advance place = ⟨place.line, place.column + segment.length⟩ := by
  induction segment generalizing place with
  | nil => rfl
  | cons c rest ih =>
    rw [List.mem_cons, not_or] at free
    have stays : place.advance c = ⟨place.line, place.column + 1⟩ := if_neg fun same => free.1 same.symm
    rw [List.foldl_cons, stays, ih free.2, List.length_cons, Nat.add_assoc, Nat.add_comm 1]

private theorem foldl_advance_closed (segments : List (List Char)) (free : ∀ segment ∈ segments, '\n' ∉ segment)
    (line : Nat) : (closed segments).foldl advance ⟨line, 1⟩ = ⟨line + segments.length, 1⟩ := by
  induction segments generalizing line with
  | nil => rfl
  | cons segment rest ih =>
    rw [List.forall_mem_cons] at free
    have ends (column : Nat) : advance ⟨line, column⟩ '\n' = ⟨line + 1, 1⟩ := rfl
    rw [closed_cons, List.foldl_append, foldl_advance_free segment free.1, List.foldl_cons, ends, ih free.2,
      List.length_cons, Nat.add_assoc, Nat.add_comm 1]

/-- The line counts the closed segments, and the column the passed front. -/
theorem ofOffset_site {source : String} {offset : Nat} (site : Site source.toList offset) :
    ofOffset source offset = ⟨site.before.length + 1, site.front.length + 1⟩ := by
  rw [ofOffset_eq, site.passed_eq, List.foldl_append, foldl_advance_closed _ site.before_free,
    foldl_advance_free _ site.front_free, Nat.add_comm 1, Nat.add_comm 1]

end LogicFree.Location

namespace LogicFree

theorem Failure.render_single {failure : Failure} {source filename : String} {report : Report}
    (single : failure.reports source filename = [report]) :
    failure.render source filename = report.format := by
  rw [render, single, List.mapM_cons, List.mapM_nil]
  cases report.format <;> simp [Except.map]

end LogicFree
