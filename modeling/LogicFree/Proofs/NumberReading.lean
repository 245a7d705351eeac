import LogicFree.Proofs.PrintedWords
import LogicFree.Script.Number

/-! A number literal does not depend on what follows it. The characters that the reader
takes from a longer text are read as the same literal on their own, so that a literal
can be cut out and written down elsewhere. -/

namespace LogicFree.Script.NumberLiteral
open Output (Stops stops_cons)

/-- The characters that go on with a run of digits. -/
def isDigitOrMark (base : Nat) (c : Char) : Bool := isDigitOf base c || c = '_'

private theorem isDigitOf_ten (c : Char) : isDigitOf 10 c = c.isDigit := by
  have order (a b : Char) : a ≤ b ↔ a.toNat ≤ b.toNat := Iff.rfl
  have decimal : c.isDigit = (decide ('0' ≤ c) && decide (c ≤ '9')) := rfl
  grind [isDigitOf, digitValue?]

private theorem isDigitOrMark_ten (c : Char) : isDigitOrMark 10 c = (c.isDigit || c = '_') := by
  rw [isDigitOrMark, isDigitOf_ten]

private theorem takeWhile_run {test : Char → Bool} {run more : List Char}
    (inside : ∀ c ∈ run, test c = true) (stops : Stops test more) :
    (run ++ more).takeWhile test = run := by
  have ended : more.takeWhile test = [] := by
    cases more with
    | nil => rfl
    | cons c rest => rw [List.takeWhile_cons, stops c rfl]; rfl
  rw [List.takeWhile_append_of_pos inside, ended, List.append_nil]

private theorem stops_drop (test : Char → Bool) (text : List Char) :
    Stops test (text.drop (text.takeWhile test).length) := by
  induction text with
  | nil => exact nofun
  | cons c rest ih =>
    cases holds : test c with
    | true => simpa [List.takeWhile_cons, holds] using ih
    | false => simpa [List.takeWhile_cons, holds] using stops_cons holds rest

private theorem stops_front {test : Char → Bool} {front back : List Char} (stops : Stops test (front ++ back)) :
    Stops test front := by
  intro c member
  cases front with
  | nil => cases member
  | cons d later => exact stops c member

/-- A run whose separators do not all stand between two digits. -/
def isMalformed (run : List Char) : Bool :=
  run.isEmpty || run.head? = some '_' || run.getLast? = some '_' || digits?.doubled run

private theorem digits?_eq (base : Nat) (text : List Char) :
    digits? base text =
      if isMalformed (text.takeWhile (isDigitOrMark base)) then none
      else some ((text.takeWhile (isDigitOrMark base)).filter (· ≠ '_'),
        text.drop (text.takeWhile (isDigitOrMark base)).length) := rfl

/-- Digits are read up to the first character that is none, whatever it is. -/
theorem digits?_run {base : Nat} {text digits rest : List Char}
    (found : digits? base text = some (digits, rest)) :
    ∃ run, run ≠ [] ∧ (∀ c ∈ run, isDigitOrMark base c = true) ∧ text = run ++ rest ∧
      Stops (isDigitOrMark base) rest ∧
      ∀ more, Stops (isDigitOrMark base) more → digits? base (run ++ more) = some (digits, more) := by
  rw [digits?_eq] at found
  have inside : ∀ c ∈ text.takeWhile (isDigitOrMark base), isDigitOrMark base c = true :=
    List.all_eq_true.mp List.all_takeWhile
  have whole : text.takeWhile (isDigitOrMark base) ++
      text.drop (text.takeWhile (isDigitOrMark base)).length = text :=
    (List.prefix_iff_eq_append.mp (List.takeWhile_prefix _))
  have stops := stops_drop (isDigitOrMark base) text
  generalize text.takeWhile (isDigitOrMark base) = run at found inside whole stops
  split at found <;> cases found
  next formed =>
  refine ⟨run, ?_, inside, whole.symm, stops, ?_⟩
  · rintro rfl
    exact formed rfl
  · intro more ended
    rw [digits?_eq, takeWhile_run inside ended, if_neg formed, List.drop_left]

private theorem fraction?_eq (text : List Char) :
    fraction? text =
      if (text.head?.any (isDigitOrMark 10)) then digits? 10 text else some ([], text) := by
  cases text with
  | nil => rfl
  | cons c rest => rw [fraction?, List.head?_cons, Option.any_some, isDigitOrMark_ten]

private theorem fraction?_run {text digits rest : List Char} (found : fraction? text = some (digits, rest)) :
    ∃ run, text = run ++ rest ∧ Stops (isDigitOrMark 10) rest ∧
      ∀ more, Stops (isDigitOrMark 10) more → fraction? (run ++ more) = some (digits, more) := by
  rw [fraction?_eq] at found
  split at found
  · obtain ⟨run, nonempty, inside, rfl, ended, again⟩ := digits?_run found
    refine ⟨run, rfl, ended, ?_⟩
    intro more stops
    obtain ⟨c, later, rfl⟩ := List.exists_cons_of_ne_nil nonempty
    have opens : (c :: later ++ more).head?.any (isDigitOrMark 10) = true :=
      inside c List.mem_cons_self
    rw [fraction?_eq, if_pos opens, again more stops]
  next other =>
    cases found
    refine ⟨[], rfl, ?_, ?_⟩
    · intro c member
      rw [Option.mem_def.mp member, Option.any_some, Bool.not_eq_true] at other
      exact other
    intro more stops
    have none : more.head?.any (isDigitOrMark 10) = false := by
      cases more with
      | nil => rfl
      | cons c later => exact stops c rfl
    rw [List.nil_append, fraction?_eq, none]
    rfl

/-- Nothing follows, or the letter that ends a literal for a big integer. -/
def Ends (more : List Char) : Prop := ∀ c ∈ more.head?, c = 'n'

theorem Ends.stops {more : List Char} (ends : Ends more) (base : Nat) :
    Stops (isDigitOrMark base) more := by
  intro c member
  rw [ends c member]
  rfl

private theorem magnitude_run {text rest : List Char} {value : Int}
    (found : exponent?.magnitude text = some (value, rest)) :
    ∃ c run, isDigitOrMark 10 c = true ∧ text = c :: run ++ rest ∧
      ∀ more, Ends more → exponent?.magnitude (c :: run ++ more) = some (value, more) := by
  obtain ⟨⟨digits, after⟩, read, found⟩ := Option.map_eq_some_iff.mp found
  cases found
  obtain ⟨run, nonempty, inside, rfl, -, again⟩ := digits?_run read
  obtain ⟨c, later, rfl⟩ := List.exists_cons_of_ne_nil nonempty
  refine ⟨c, later, inside c List.mem_cons_self, rfl, ?_⟩
  intro more ends
  rw [exponent?.magnitude, again more (ends.stops 10)]
  rfl

private theorem exponent?_of_ends {more : List Char} (ends : Ends more) :
    exponent? more = some (none, more) := by
  cases more with
  | nil => rfl
  | cons c later =>
    have plain : ¬ (decide (c = 'e') || decide (c = 'E')) = true := by
      rw [ends c rfl]
      decide
    unfold exponent?
    split <;> simp_all

/-- An exponent is read up to its last digit. Where there is none, nothing is taken. -/
theorem exponent?_run {text rest : List Char} {value : Option Int}
    (found : exponent? text = some (value, rest)) :
    ∃ run, text = run ++ rest ∧ (value = none → run = []) ∧
      ∀ more, Ends more → exponent? (run ++ more) = some (value, more) := by
  revert found
  fun_cases exponent? text with
  | case1 c later letter | case3 c later letter =>
    intro found
    obtain ⟨⟨size, after⟩, read, found⟩ := Option.map_eq_some_iff.mp found
    cases found
    obtain ⟨d, run, -, rfl, again⟩ := magnitude_run read
    refine ⟨c :: _ :: d :: run, rfl, nofun, ?_⟩
    intro more ends
    show exponent? (c :: _ :: (d :: run ++ more)) = _
    rw [exponent?, if_pos letter, again more ends]
    rfl
  | case5 c later notPlus notMinus letter =>
    intro found
    obtain ⟨⟨size, after⟩, read, found⟩ := Option.map_eq_some_iff.mp found
    cases found
    obtain ⟨d, run, digit, rfl, again⟩ := magnitude_run read
    refine ⟨c :: d :: run, rfl, nofun, ?_⟩
    intro more ends
    show exponent? (c :: (d :: run ++ more)) = _
    rw [exponent?, if_pos letter, again more ends]
    · rfl
    all_goals
      rintro other ⟨⟩
      revert digit
      decide
  | case2 | case4 | case6 | case7 =>
    rintro ⟨⟩
    exact ⟨[], rfl, fun _ => rfl, fun more ends => exponent?_of_ends ends⟩

/-- A fraction is read whatever ends it. Where there is no point, no point may come. -/
theorem point?_run {text fraction rest : List Char} {pointed : Bool}
    (found : point? text = some (fraction, pointed, rest)) :
    ∃ run, text = run ++ rest ∧ (text.head? = some '.' → run.head? = some '.') ∧
      ∀ front, front <+: rest → point? (run ++ front) = some (fraction, pointed, front) := by
  unfold point? at found
  split at found
  next after =>
    obtain ⟨⟨digits, later⟩, read, found⟩ := Option.map_eq_some_iff.mp found
    cases found
    obtain ⟨run, rfl, stops, again⟩ := fraction?_run read
    refine ⟨'.' :: run, rfl, fun _ => rfl, ?_⟩
    rintro front ⟨back, rfl⟩
    rw [List.cons_append, point?, again front (stops_front stops)]
    rfl
  next bare =>
    cases found
    refine ⟨[], rfl, ?_, ?_⟩
    · intro opens
      obtain ⟨later, rfl⟩ := List.head?_eq_some_iff.mp opens
      exact (bare later rfl).elim
    · rintro front ⟨back, rfl⟩
      rw [List.nil_append, point?]
      rintro later rfl
      exact bare (later ++ back) rfl

private theorem ending?_run {digits fraction text rest : List Char} {pointed : Bool} {literal : NumberLiteral}
    (found : ending? digits fraction pointed text = some (literal, rest)) :
    ∃ run, text = run ++ rest ∧ ending? digits fraction pointed run = some (literal, []) := by
  obtain ⟨⟨exponent, after⟩, read, ended⟩ := Option.bind_eq_some_iff.mp found
  obtain ⟨run, rfl, nothing, again⟩ := exponent?_run read
  have alone := again [] nofun
  rw [List.append_nil] at alone
  split at ended
  next value after same =>
    cases same
    split at ended <;> cases ended
    exact ⟨run, rfl, by rw [ending?, alone]; rfl⟩
  next after same =>
    cases same
    cases nothing rfl
    split at ended <;> cases ended
    next bare =>
    refine ⟨['n'], rfl, ?_⟩
    rw [Bool.and_eq_true] at bare
    rw [ending?, exponent?_of_ends (by rintro c ⟨⟩; rfl)]
    show (if (!pointed && true) = true then _ else _) = _
    rw [bare.1]
    rfl
  next after other same =>
    cases same
    cases nothing rfl
    split at ended
    · cases ended
    cases pointed <;> cases ended <;> exact ⟨[], rfl, rfl⟩

/-- What follows the digits of a decimal literal, alone. -/
theorem afterWhole?_run {digits text rest : List Char} {literal : NumberLiteral}
    (found : afterWhole? digits text = some (literal, rest)) :
    ∃ run, text = run ++ rest ∧ (text.head? = some '.' → run.head? = some '.') ∧
      afterWhole? digits run = some (literal, []) := by
  obtain ⟨⟨fraction, pointed, after⟩, read, ended⟩ := Option.bind_eq_some_iff.mp found
  obtain ⟨front, rfl, point, again⟩ := point?_run read
  obtain ⟨run, rfl, alone⟩ := ending?_run ended
  refine ⟨front ++ run, (List.append_assoc ..).symm, ?_, ?_⟩
  · intro opens
    rw [List.head?_append, point opens]
    rfl
  · rw [afterWhole?, again run (List.prefix_append ..)]
    exact alone

private theorem radix?_run {base : Nat} {text rest : List Char} {literal : NumberLiteral}
    (found : radix? base text = some (literal, rest)) :
    ∃ run, text = run ++ rest ∧ radix? base run = some (literal, []) := by
  obtain ⟨⟨digits, after⟩, read, ended⟩ := Option.bind_eq_some_iff.mp found
  obtain ⟨run, -, -, rfl, -, again⟩ := digits?_run read
  dsimp only at ended
  split at ended
  next after =>
    split at ended <;> cases ended
    refine ⟨run ++ ['n'], List.append_cons .., ?_⟩
    rw [radix?, again ['n'] (Ends.stops (by rintro c ⟨⟩; rfl) base)]
    rfl
  next after other =>
    split at ended <;> cases ended
    have alone := again [] nofun
    rw [List.append_nil] at alone
    exact ⟨run, rfl, by rw [radix?, alone]; rfl⟩

/-- The characters that a literal takes up are read as the same literal on their own. -/
theorem read?_alone {text rest : List Char} {literal : NumberLiteral}
    (found : read? text = some (literal, rest)) :
    ∃ raw, text = raw ++ rest ∧ read? raw = some (literal, []) := by
  unfold read? at found
  split at found
  next c later =>
    split at found
    next mark =>
      obtain ⟨run, rfl, alone⟩ := radix?_run found
      exact ⟨'0' :: c :: run, rfl, by rw [read?, if_pos mark, alone]⟩
    split at found
    next notHex mark =>
      obtain ⟨run, rfl, alone⟩ := radix?_run found
      exact ⟨'0' :: c :: run, rfl, by rw [read?, if_neg notHex, if_pos mark, alone]⟩
    split at found
    next notHex notOctal mark =>
      obtain ⟨run, rfl, alone⟩ := radix?_run found
      exact ⟨'0' :: c :: run, rfl, by rw [read?, if_neg notHex, if_neg notOctal, if_pos mark, alone]⟩
    split at found
    · cases found
    next notHex notOctal notBinary notDigit =>
      obtain ⟨run, split, -, alone⟩ := afterWhole?_run found
      refine ⟨'0' :: run, congrArg _ split, ?_⟩
      cases run with
      | nil => exact alone
      | cons d run =>
        cases (List.cons.inj split).1
        rw [read?, if_neg notHex, if_neg notOctal, if_neg notBinary, if_neg notDigit, alone]
  next later =>
    obtain ⟨run, split, point, alone⟩ := afterWhole?_run found
    obtain ⟨later, rfl⟩ := List.head?_eq_some_iff.mp (point rfl)
    exact ⟨_, split, by rw [read?, alone]⟩
  next notZero notPoint =>
    obtain ⟨⟨digits, after⟩, read, ended⟩ := Option.bind_eq_some_iff.mp found
    obtain ⟨front, -, -, rfl, stops, again⟩ := digits?_run read
    obtain ⟨run, rfl, -, alone⟩ := afterWhole?_run ended
    refine ⟨front ++ run, (List.append_assoc ..).symm, ?_⟩
    rw [read?, again run (stops_front stops)]
    · exact alone
    · intro c later same
      exact notZero c (later ++ rest) (by rw [← List.append_assoc, same]; rfl)
    · intro later same
      exact notPoint (later ++ rest) (by rw [← List.append_assoc, same]; rfl)

end LogicFree.Script.NumberLiteral
