import Mathlib.Data.List.TakeWhile
import LogicFree.Proofs.CaretPlacement

/-! Spaces at the ends of printed lines. A printed failure is a list of rows, and whether
one of them ends in a space is decided row by row. The row of the caret is trimmed whole,
but of the row of the source line only the text behind the line number is, so a line with
nothing to show leaves the space before it. Apart from that only a file name that is broken
after a space can end a line in one. -/

namespace LogicFree.Text

/-- A row that ends in a space when it is read as a line. -/
def EndsInSpace (row : List Char) : Prop := (withoutReturn row).getLast? = some ' '

private theorem endsInSpace_of_getLast? {row : List Char} (ends : row.getLast? = some ' ') : EndsInSpace row := by
  have kept : row.getLast? ≠ some '\r' := by
    rw [ends]
    decide
  rw [EndsInSpace, withoutReturn, if_neg kept]
  exact ends

private theorem not_endsInSpace_of_getLast? {row : List Char} {c : Char} (ends : row.getLast? = some c)
    (shown : isBlank c = false) : ¬ EndsInSpace row := by
  have kept : row.getLast? ≠ some '\r' := by
    intro returned
    rw [ends] at returned
    rw [Option.some.inj returned] at shown
    exact absurd shown (by decide)
  rw [EndsInSpace, withoutReturn, if_neg kept, ends]
  intro space
  rw [Option.some.inj space] at shown
  exact absurd shown (by decide)

private theorem not_endsInSpace_nil : ¬ EndsInSpace [] := by
  rw [EndsInSpace]
  decide

instance : DecidablePred EndsInSpace :=
  fun row => inferInstanceAs (Decidable ((withoutReturn row).getLast? = some ' '))

theorem spaced_lines_iff {rows : List (List Char)} (free : ∀ row ∈ rows, '\n' ∉ row) :
    (∀ line ∈ lines (closed rows), line.getLast? ≠ some ' ') ↔ ∀ row ∈ rows, ¬ EndsInSpace row := by
  have cut := lines_closed rows free []
  rw [List.append_nil] at cut
  rw [cut]
  simp only [lines, List.append_nil, List.forall_mem_map]
  rfl

private theorem closed_append (front back : List (List Char)) : closed (front ++ back) = closed front ++ closed back := by
  simp [closed]

private theorem closed_splitOn (text : List Char) : closed (text.splitOn '\n') = text ++ ['\n'] := by
  obtain ⟨before, last, cut⟩ :=
    (List.eq_nil_or_concat' (text.splitOn '\n')).resolve_left (List.splitOn_ne_nil _ _)
  have whole : text = closed before ++ last := by
    have joined := eq_of_segments cut
    simpa using joined
  rw [cut, closed_concat, ← whole]

/-- Closed rows with a line feed between them are closed rows with an empty row between them. -/
theorem intercalate_closed (blocks : List (List (List Char))) :
    ['\n'].intercalate (blocks.map closed) = closed ([[]].intercalate blocks) := by
  induction blocks with
  | nil => rfl
  | cons block rest ih =>
    cases rest with
    | nil => simp
    | cons next rest =>
      rw [List.map_cons, List.map_cons, List.intercalate_cons_cons, ← List.map_cons, ih,
        List.intercalate_cons_cons, closed_append, closed_append]
      rfl

private theorem forall_mem_intercalate {blocks : List (List (List Char))} {holds : List Char → Prop} (empty : holds []) :
    (∀ row ∈ [[]].intercalate blocks, holds row) ↔ ∀ block ∈ blocks, ∀ row ∈ block, holds row := by
  induction blocks with
  | nil => simp
  | cons block rest ih =>
    cases rest with
    | nil => simp
    | cons next rest =>
      have parts : (∀ item ∈ block :: next :: rest, ∀ row ∈ item, holds row) ↔
          (∀ row ∈ block, holds row) ∧ ∀ item ∈ next :: rest, ∀ row ∈ item, holds row :=
        List.forall_mem_cons
      rw [parts, ← ih, List.intercalate_cons_cons, List.forall_mem_append, List.forall_mem_append,
        List.forall_mem_singleton, and_iff_left empty]

private theorem trimEnd_getLast? {text : List Char} {c : Char} (ends : (trimEnd text).getLast? = some c) :
    isBlank c = false := by
  rw [trimEnd, List.getLast?_reverse] at ends
  have first := List.head?_dropWhile_not isBlank text.reverse
  rwa [ends] at first

private theorem trimEnd_eq_nil_iff (text : List Char) : trimEnd text = [] ↔ ∀ c ∈ text, isBlank c = true := by
  rw [trimEnd, List.reverse_eq_nil_iff, List.dropWhile_eq_nil_iff]
  simp only [List.mem_reverse]

private theorem expandTabs_blank_iff (text : List Char) :
    (∀ c ∈ expandTabs text, isBlank c = true) ↔ ∀ c ∈ text, isBlank c = true := by
  have tab : isBlank '\t' = true := by decide
  have space : isBlank ' ' = true := by decide
  rw [expandTabs, List.forall_mem_flatMap]
  refine forall₂_congr fun c _ => ?_
  by_cases wide : c = '\t'
  · simp [wide, tab, space]
  · simp [wide]

private theorem isBlank_of_isDigit {c : Char} (digit : c.isDigit = true) : isBlank c = false := by
  obtain ⟨low, high⟩ := Char.isDigit_iff_toNat.mp digit
  change 48 ≤ c.toNat at low
  change c.toNat ≤ 57 at high
  rw [isBlank, blankRanges, Ranges.contains, if_neg (by omega), if_neg (by omega), Ranges.contains,
    if_neg (by omega), if_neg (by omega), Ranges.contains, if_pos (by omega)]

private theorem number_getLast? (number : Nat) :
    ∃ c, (toString number).toList.getLast? = some c ∧ isBlank c = false := by
  have digits : (toString number).toList = Nat.toDigits 10 number := by
    rw [Nat.toString_eq_repr, Nat.toList_repr]
  rw [digits, List.getLast?_eq_some_getLast Nat.toDigits_ne_nil]
  refine ⟨_, rfl, ?_⟩
  apply isBlank_of_isDigit
  exact Nat.isDigit_of_mem_toDigits (by decide) (by decide) (List.getLast_mem Nat.toDigits_ne_nil)

end LogicFree.Text

namespace LogicFree.Report
open Text

def hintRows (report : Report) : List (List Char) :=
  match report.help with
  | some help => ("help: " ++ help).toList.splitOn '\n'
  | none => []

/-- All rows of a report, with those of source context where there is a line to show. -/
def printedRows (report : Report) : List (List Char) :=
  ("error: " ++ report.message).toList.splitOn '\n' ++ report.placeRow.splitOn '\n' ++
    report.sourceLine?.elim [] report.rows ++ report.hintRows

private theorem toList_hint (report : Report) : report.hint.toList = closed report.hintRows := by
  unfold hint hintRows
  cases report.help with
  | none => rfl
  | some help => simp only [closed_splitOn, String.toList_append]; rfl

private theorem format_rows {report : Report} {text : String} (laidOut : report.format = .ok text) :
    text.toList = closed report.printedRows := by
  have head : report.headline.toList =
      closed (("error: " ++ report.message).toList.splitOn '\n' ++ report.placeRow.splitOn '\n') := by
    rw [toList_headline, closed_append, closed_splitOn, closed_splitOn]
    simp
  rw [printedRows, closed_append, closed_append, ← head, ← toList_hint]
  rcases (report.format_eq_ok_iff text).mp laidOut with ⟨missing, same⟩ | ⟨line, found, -, same⟩
  · rw [same, missing, String.toList_append, Option.elim_none, closed_nil, List.append_nil]
  · rw [same, found, String.toList_append, String.toList_append, String.toList_ofList, Option.elim_some]

private theorem bind_ok {α β : Type} {first : Except Panic α} {next : α → Except Panic β} {value : β}
    (success : (first >>= next) = .ok value) : ∃ middle, first = .ok middle ∧ next middle = .ok value := by
  cases first with
  | error stopped => cases success
  | ok middle => exact ⟨middle, rfl, success⟩

private theorem format_rows_all {reports : List Report} {texts : List String}
    (laidOut : reports.mapM format = .ok texts) :
    texts.map String.toList = (reports.map printedRows).map closed := by
  induction reports generalizing texts with
  | nil =>
    cases laidOut
    rfl
  | cons report rest ih =>
    rw [List.mapM_cons] at laidOut
    obtain ⟨text, first, further⟩ := bind_ok laidOut
    obtain ⟨more, others, same⟩ := bind_ok further
    cases same
    rw [List.map_cons, List.map_cons, List.map_cons, format_rows first, ih others]

private theorem printedRows_free (report : Report) (annotated : '\n' ∉ report.annotation.toList) :
    ∀ row ∈ report.printedRows, '\n' ∉ row := by
  rw [printedRows, List.forall_mem_append, List.forall_mem_append, List.forall_mem_append]
  refine ⟨⟨⟨segments_free _, segments_free _⟩, ?_⟩, ?_⟩
  · cases found : report.sourceLine? with
    | none => exact List.forall_mem_nil _
    | some line => exact report.rows_free (sourceLine_free found) annotated
  · unfold hintRows
    cases report.help with
    | none => exact List.forall_mem_nil _
    | some help => exact segments_free _

/-- The row of the source line ends in a space exactly if there is nothing to show behind
the line number, because only the text behind it is trimmed. -/
theorem sourceRow_endsInSpace_iff (report : Report) (line : List Char) :
    EndsInSpace (report.sourceRow line) ↔ ∀ c ∈ line, isBlank c = true := by
  rw [← expandTabs_blank_iff, ← trimEnd_eq_nil_iff, sourceRow]
  constructor
  · intro spaced
    by_contra shown
    have ends := List.getLast?_eq_some_getLast shown
    refine not_endsInSpace_of_getLast? ?_ (trimEnd_getLast? ends) spaced
    rw [List.getLast?_append, ends, Option.some_or]
  · intro nothing
    apply endsInSpace_of_getLast?
    rw [nothing, List.append_nil, List.getLast?_append]
    rfl

theorem caretRow_unspaced (report : Report) (line : List Char) : ¬ EndsInSpace (report.caretRow line) := by
  have nonempty : report.caretRow line ≠ [] := by
    rw [caretRow_eq]
    simp
  have ends := List.getLast?_eq_some_getLast nonempty
  exact not_endsInSpace_of_getLast? ends (trimEnd_getLast? ends)

private theorem rows_unspaced_iff (report : Report) (line : List Char) :
    (∀ row ∈ report.rows line, ¬ EndsInSpace row) ↔ ∃ c ∈ line, isBlank c = false := by
  have margin : ¬ EndsInSpace (report.gutter ++ [' ', '|']) := by
    have ends : (report.gutter ++ [' ', '|']).getLast? = some '|' := by
      rw [List.getLast?_append]
      rfl
    exact not_endsInSpace_of_getLast? ends (by decide)
  simp only [rows, List.forall_mem_cons, sourceRow_endsInSpace_iff]
  simp [margin, report.caretRow_unspaced line]

/-- A file name that is broken right after a space, be it the one before the name. -/
def BreaksAfterSpace (filename : String) : Prop :=
  ∃ row ∈ ((" --> " ++ filename).toList.splitOn '\n').dropLast, EndsInSpace row

instance (filename : String) : Decidable (BreaksAfterSpace filename) :=
  inferInstanceAs (Decidable (∃ row ∈ ((" --> " ++ filename).toList.splitOn '\n').dropLast, EndsInSpace row))

/-- The last row of the place ends in a number, and those before it come from the name. -/
theorem placeRow_unspaced_iff (report : Report) :
    (∀ row ∈ report.placeRow.splitOn '\n', ¬ EndsInSpace row) ↔ ¬ BreaksAfterSpace report.filename := by
  obtain ⟨before, last, cut⟩ := (List.eq_nil_or_concat'
    ((" --> " ++ report.filename).toList.splitOn '\n')).resolve_left (List.splitOn_ne_nil _ _)
  have free := segments_free (" --> " ++ report.filename).toList
  rw [cut, List.forall_mem_append, List.forall_mem_singleton] at free
  have name : (" --> " ++ report.filename).toList = closed before ++ last := by
    have joined := eq_of_segments cut
    simpa using joined
  let numbers := (":" ++ toString report.location.line ++ ":" ++ toString report.location.column).toList
  have numbered : '\n' ∉ numbers := by
    simp only [numbers, String.toList_append, List.mem_append, not_or]
    exact ⟨⟨⟨by decide, number_free _⟩, by decide⟩, number_free _⟩
  have rows : report.placeRow.splitOn '\n' = before ++ [last ++ numbers] := by
    have whole : report.placeRow = closed before ++ (last ++ numbers) := by
      rw [← List.append_assoc, ← name]
      simp [placeRow, numbers]
    have unbroken : '\n' ∉ last ++ numbers := by
      rw [List.mem_append, not_or]
      exact ⟨free.2, numbered⟩
    rw [whole, splitOn_closed before free.1, List.splitOn_eq_singleton unbroken]
  obtain ⟨c, ends, shown⟩ := number_getLast? report.location.column
  have closing : ¬ EndsInSpace (last ++ numbers) := by
    refine not_endsInSpace_of_getLast? ?_ shown
    simp only [numbers, String.toList_append, List.getLast?_append, ends, Option.some_or]
  rw [rows, BreaksAfterSpace, cut, List.dropLast_concat, List.forall_mem_append, List.forall_mem_singleton,
    and_iff_left closing]
  simp

/-- A report ends no line in a space exactly if its file name is not broken after one and
it shows no blank line of the source, provided that message and hint have none. -/
theorem printedRows_unspaced_iff (report : Report)
    (message : ∀ row ∈ ("error: " ++ report.message).toList.splitOn '\n', ¬ EndsInSpace row)
    (hint : ∀ row ∈ report.hintRows, ¬ EndsInSpace row) :
    (∀ row ∈ report.printedRows, ¬ EndsInSpace row) ↔
      ¬ BreaksAfterSpace report.filename ∧
        ∀ line, report.sourceLine? = some line → ∃ c ∈ line, isBlank c = false := by
  have context : (∀ row ∈ report.sourceLine?.elim [] report.rows, ¬ EndsInSpace row) ↔
      ∀ line, report.sourceLine? = some line → ∃ c ∈ line, isBlank c = false := by
    cases report.sourceLine? with
    | none => simp
    | some line => simp only [Option.elim_some, rows_unspaced_iff, Option.some.injEq, forall_eq']
  rw [printedRows, List.forall_mem_append, List.forall_mem_append, List.forall_mem_append,
    and_iff_left hint, and_iff_right message, report.placeRow_unspaced_iff, context]

end LogicFree.Report

namespace LogicFree.Failure
open Text

theorem report_texts {failure : Failure} {source filename : String} {report : Report}
    (member : report ∈ failure.reports source filename) :
    report.filename = filename ∧
      (∀ row ∈ ("error: " ++ report.message).toList.splitOn '\n', ¬ EndsInSpace row) ∧
      ∀ row ∈ report.hintRows, ¬ EndsInSpace row := by
  cases failure with
  | malformed diagnostic line column span =>
    have message : ∀ row ∈ "error: Unexpected token".toList.splitOn '\n', ¬ EndsInSpace row := by decide +kernel
    cases List.mem_singleton.mp member
    exact ⟨rfl, message, List.forall_mem_nil _⟩
  | policy violations =>
    have message : ∀ row ∈ ("error: " ++ logicFreeMessage).toList.splitOn '\n', ¬ EndsInSpace row := by
      decide +kernel
    have help : ∀ row ∈ ("help: " ++ policyHelp).toList.splitOn '\n', ¬ EndsInSpace row := by decide +kernel
    obtain ⟨violation, -, rfl⟩ := List.mem_map.mp member
    exact ⟨rfl, message, help⟩

theorem render_rows {failure : Failure} {source filename text : String}
    (rendered : failure.render source filename = .ok text) :
    text.toList = closed ([[]].intercalate ((failure.reports source filename).map Report.printedRows)) := by
  rw [render] at rendered
  cases laidOut : (failure.reports source filename).mapM Report.format with
  | error stopped =>
    rw [laidOut] at rendered
    cases rendered
  | ok texts =>
    rw [laidOut] at rendered
    cases rendered
    rw [String.toList_intercalate, Report.format_rows_all laidOut]
    exact intercalate_closed _

/-- No line of a printed failure ends in a space exactly if every report shows something of
its source line, or no line at all, and the file name is not broken after a space. -/
theorem unspaced_iff (failure : Failure) (source filename text : String)
    (unbroken : ∀ report ∈ failure.reports source filename, '\n' ∉ report.annotation.toList)
    (rendered : failure.render source filename = .ok text) :
    (∀ line ∈ lines text.toList, line.getLast? ≠ some ' ') ↔
      ∀ report ∈ failure.reports source filename,
        ¬ Report.BreaksAfterSpace filename ∧
          ∀ line, report.sourceLine? = some line → ∃ c ∈ line, isBlank c = false := by
  have free : ∀ row ∈ [[]].intercalate ((failure.reports source filename).map Report.printedRows),
      '\n' ∉ row := by
    rw [forall_mem_intercalate List.not_mem_nil, List.forall_mem_map]
    exact fun report member => report.printedRows_free (unbroken report member)
  rw [render_rows rendered, spaced_lines_iff free, forall_mem_intercalate not_endsInSpace_nil,
    List.forall_mem_map]
  refine forall₂_congr fun report member => ?_
  obtain ⟨named, message, hint⟩ := report_texts member
  rw [report.printedRows_unspaced_iff message hint, named]

theorem unspaced_iff_between_lines :
    let failure := Failure.malformed "boom" 2 1 ⟨1, 2⟩
    ∃ text, failure.render "\nx \n" "a b.jsx" = .ok text ∧
      ∀ line ∈ lines text.toList, line.getLast? ≠ some ' ' := by
  intro failure
  have rendered : failure.render "\nx \n" "a b.jsx" =
      .ok "error: Unexpected token\n --> a b.jsx:2:1\n  |\n2 | x\n  | ^ boom\n" := by decide +kernel
  refine ⟨_, rendered, (unspaced_iff failure "\nx \n" "a b.jsx" _ (by decide) rendered).mpr ?_⟩
  intro report member
  cases List.mem_singleton.mp member
  refine ⟨by decide, ?_⟩
  intro line found
  cases found
  exact ⟨'x', by decide, by decide⟩

/-- Where nothing but blanks stands on the line, as behind an element that is still open at
the end of its file, the row of the source line ends in a space. -/
theorem blank_line_spaced :
    let source := "<a>\n  "
    let failure := Failure.malformed "Expected '</', got '<eof>'" 2 3 ⟨6, 6⟩
    (∀ report ∈ failure.reports source "template.jsx", '\n' ∉ report.annotation.toList) ∧
      ∃ text, failure.render source "template.jsx" = .ok text ∧
        ∃ line ∈ lines text.toList, line.getLast? = some ' ' := by
  intro source failure
  have rendered : failure.render source "template.jsx" =
      .ok ("error: Unexpected token\n --> template.jsx:2:3\n  |\n2 | \n" ++
        "  |   ^ Expected '</', got '<eof>'\n") := by decide +kernel
  exact ⟨by decide, _, rendered, "2 | ".toList, by decide +kernel, by decide⟩

end LogicFree.Failure
