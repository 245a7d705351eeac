import LogicFree.Text.Blank

/-! The lines of a text, and the blanks at their ends. -/

namespace LogicFree.Text

/-- The lines of a text. A line feed ends a line, together with one carriage
return right before it. A text that ends in a line feed has no empty last line. -/
def lines : List Char → List (List Char)
  | [] => []
  | '\n' :: rest => [] :: lines rest
  | c :: rest =>
    if c = '\r' ∧ rest.head? = some '\n' then lines rest
    else match lines rest with
      | [] => [[c]]
      | line :: others => (c :: line) :: others

def trimEnd (text : List Char) : List Char :=
  (text.reverse.dropWhile isBlank).reverse

def width (c : Char) : Nat := if c = '\t' then 4 else 1

def totalWidth (text : List Char) : Nat := @List.sum Nat _ Zero.ofOfNat0 (text.map width)

/-- A text with its tabs widened to spaces. -/
def expandTabs (text : List Char) : List Char :=
  text.flatMap fun c => if c = '\t' then List.replicate 4 ' ' else [c]

@[simp] theorem totalWidth_nil : totalWidth [] = 0 := rfl

@[simp] theorem totalWidth_cons (c : Char) (rest : List Char) :
    totalWidth (c :: rest) = width c + totalWidth rest := List.sum_cons

@[simp] theorem totalWidth_append (front back : List Char) :
    totalWidth (front ++ back) = totalWidth front + totalWidth back := by
  rw [totalWidth, List.map_append, List.sum_append_nat, totalWidth, totalWidth]

@[simp] theorem expandTabs_append (front back : List Char) :
    expandTabs (front ++ back) = expandTabs front ++ expandTabs back := by
  simp [expandTabs]

/-- A widened text is as long as the columns it takes up. -/
@[simp] theorem length_expandTabs (text : List Char) :
    (expandTabs text).length = totalWidth text := by
  induction text with
  | nil => rfl
  | cons c rest ih =>
    rw [← List.singleton_append, expandTabs_append, List.length_append, ih, totalWidth_append]
    by_cases tab : c = '\t' <;> simp [expandTabs, width, tab]

end LogicFree.Text
