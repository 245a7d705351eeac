import LogicFree.Text.Ranges

/-! What one table of code points holds and another does not. The difference of two
ascending tables is computed range by range, so that two classes of characters are compared
over all code points by the evaluation of their tables. -/

namespace LogicFree.Text.Ranges

/-- A code point lies in one of the ranges. -/
def Holds (ranges : Ranges) (code : Nat) : Prop := ∃ range ∈ ranges, range.1 ≤ code ∧ code ≤ range.2

/-- Whether no range is empty, each begins behind the one before it, and the first does not
begin below the floor. -/
def ascending (floor : Nat) : Ranges → Bool
  | [] => true
  | (low, high) :: rest => floor ≤ low && low ≤ high && ascending (high + 1) rest

@[simp] theorem holds_nil (code : Nat) : ¬ Holds [] code := by
  rintro ⟨range, member, -⟩
  cases member

@[simp] theorem holds_cons (low high : Nat) (rest : Ranges) (code : Nat) :
    Holds ((low, high) :: rest) code ↔ (low ≤ code ∧ code ≤ high) ∨ Holds rest code := by
  simp [Holds]

@[simp] theorem holds_append (front back : Ranges) (code : Nat) :
    Holds (front ++ back) code ↔ Holds front code ∨ Holds back code := by
  simp [Holds, or_and_right, exists_or]

private theorem ascending_cons {floor low high : Nat} {rest : Ranges} (up : ascending floor ((low, high) :: rest)) :
    floor ≤ low ∧ low ≤ high ∧ ascending (high + 1) rest := by
  simpa [ascending, and_assoc] using up

private theorem floor_le_of_holds {floor code : Nat} {ranges : Ranges} (up : ascending floor ranges)
    (holds : Holds ranges code) : floor ≤ code := by
  induction ranges generalizing floor with
  | nil => exact absurd holds (holds_nil code)
  | cons range rest ih =>
    obtain ⟨low, high⟩ := range
    obtain ⟨above, proper, further⟩ := ascending_cons up
    rcases (holds_cons low high rest code).mp holds with ⟨first, -⟩ | later
    · omega
    · have behind := ih further later
      omega

/-- In ascending ranges the search for a character ends early without missing it. -/
theorem contains_iff {floor : Nat} {ranges : Ranges} (up : ascending floor ranges) (c : Char) :
    ranges.contains c = true ↔ Holds ranges c.toNat := by
  induction ranges generalizing floor with
  | nil => simp [contains]
  | cons range rest ih =>
    obtain ⟨low, high⟩ := range
    obtain ⟨above, proper, further⟩ := ascending_cons up
    rw [contains, holds_cons, ← ih further]
    split
    next below =>
      have absent : ¬ Ranges.contains rest c = true := by
        intro found
        have behind := floor_le_of_holds further ((ih further).mp found)
        omega
      simp only [absent, or_false, Bool.false_eq_true, false_iff]
      omega
    next reached =>
      split
      next inside => simp only [true_iff]; omega
      next beyond =>
        have outside : ¬ (low ≤ c.toNat ∧ c.toNat ≤ high) := by omega
        simp only [outside, false_or]

/-- The parts of a range that no ascending range covers. -/
def gaps (low high : Nat) : Ranges → Ranges
  | [] => if low ≤ high then [(low, high)] else []
  | (start, stop) :: rest =>
    if high < start then if low ≤ high then [(low, high)] else []
    else if low < start then (low, start - 1) :: gaps (stop + 1) high rest
    else gaps (max low (stop + 1)) high rest

private theorem holds_interval (low high code : Nat) :
    Holds (if low ≤ high then [(low, high)] else []) code ↔ low ≤ code ∧ code ≤ high := by
  split
  · simp
  · simp only [holds_nil, false_iff]
    omega

private theorem holds_gaps_iff {floor : Nat} {removed : Ranges} (up : ascending floor removed) (low high code : Nat) :
    Holds (gaps low high removed) code ↔ (low ≤ code ∧ code ≤ high) ∧ ¬ Holds removed code := by
  induction removed generalizing floor low with
  | nil => simp [gaps, holds_interval]
  | cons range rest ih =>
    obtain ⟨start, stop⟩ := range
    obtain ⟨above, proper, further⟩ := ascending_cons up
    have behind (held : Holds rest code) := floor_le_of_holds further held
    rw [gaps, holds_cons]
    split
    next before =>
      rw [holds_interval]
      constructor
      · intro inside
        refine ⟨inside, ?_⟩
        rintro (covered | later)
        · omega
        · have := behind later
          omega
      · exact And.left
    next reaching =>
      split
      next opening =>
        rw [holds_cons, ih further]
        by_cases later : Holds rest code
        · have beyond := behind later
          have outside : ¬ (low ≤ code ∧ code ≤ start - 1) := by omega
          simp only [outside, later, not_true_eq_false, and_false, or_false, or_true]
        · simp only [later, not_false_eq_true, and_true, or_false]
          omega
      next covered =>
        rw [ih further]
        by_cases later : Holds rest code
        · simp only [later, not_true_eq_false, and_false, or_true]
        · simp only [later, not_false_eq_true, and_true, or_false]
          omega

/-- The first ranges less the second. What lies before a range that is looked at is dropped,
since no later range reaches back to it. -/
def minus : Ranges → Ranges → Ranges
  | [], _ => []
  | (low, high) :: rest, removed =>
    gaps low high (removed.dropWhile (·.2 < low)) ++ minus rest (removed.dropWhile (·.2 < low))

private theorem ascending_dropWhile {floor : Nat} {ranges : Ranges} (up : ascending floor ranges)
    (drops : Nat × Nat → Bool) : ∃ start, ascending start (ranges.dropWhile drops) := by
  induction ranges generalizing floor with
  | nil => exact ⟨floor, up⟩
  | cons range rest ih =>
    obtain ⟨low, high⟩ := range
    rw [List.dropWhile_cons]
    split
    · exact ih (ascending_cons up).2.2
    · exact ⟨floor, up⟩

private theorem holds_dropWhile_iff (ranges : Ranges) {low code : Nat} (ahead : low ≤ code) :
    Holds (ranges.dropWhile (·.2 < low)) code ↔ Holds ranges code := by
  induction ranges with
  | nil => rfl
  | cons range rest ih =>
    obtain ⟨start, stop⟩ := range
    rw [List.dropWhile_cons]
    split
    next passed =>
      have below : stop < low := of_decide_eq_true passed
      have outside : ¬ (start ≤ code ∧ code ≤ stop) := by omega
      rw [ih, holds_cons, or_iff_right outside]
    next => rfl

private theorem holds_minus_iff {floor start : Nat} {ranges removed : Ranges} (up : ascending floor ranges)
    (removedUp : ascending start removed) (code : Nat) :
    Holds (ranges.minus removed) code ↔ Holds ranges code ∧ ¬ Holds removed code := by
  induction ranges generalizing floor start removed with
  | nil => simp [minus]
  | cons range rest ih =>
    obtain ⟨low, high⟩ := range
    obtain ⟨-, proper, further⟩ := ascending_cons up
    obtain ⟨next, nextUp⟩ := ascending_dropWhile removedUp (·.2 < low)
    rw [minus, holds_append, holds_gaps_iff nextUp, ih further nextUp, ← or_and_right, holds_cons]
    refine and_congr_right fun held => ?_
    have ahead : low ≤ code := by
      rcases held with ⟨first, -⟩ | later
      · exact first
      · have behind := floor_le_of_holds further later
        omega
    rw [holds_dropWhile_iff removed ahead]

/-- The table of a difference holds the characters of the one table that are not in the other. -/
theorem contains_minus_iff {floor start : Nat} {ranges removed left : Ranges} (up : ascending floor ranges)
    (removedUp : ascending start removed) (leftUp : ascending 0 left) (table : ranges.minus removed = left)
    (c : Char) : left.contains c = true ↔ ranges.contains c = true ∧ removed.contains c = false := by
  rw [contains_iff leftUp, contains_iff up, ← table, holds_minus_iff up removedUp, ← contains_iff removedUp,
    Bool.not_eq_true]

end LogicFree.Text.Ranges
