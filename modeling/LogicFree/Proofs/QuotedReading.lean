import LogicFree.Script.Escape
import LogicFree.Text.Quoted

/-! Quoted text read back by the script language's own reader of strings. Whatever
follows the closing quote is left to be read, so no text can reach beyond it, and no
character of a quoted text ends a line or is a control character. -/

namespace LogicFree.Text.Quoted
open Script

theorem digitValue?_hexDigit : ∀ digit < 16, digitValue? (hexDigit digit) = some digit := by
  decide

private theorem hexDigit_ne_brace : ∀ digit < 16, hexDigit digit ≠ '\x7b' := by
  decide

private theorem isDigitOf_hexDigit (digit : Nat) (small : digit < 16) : isDigitOf 16 (hexDigit digit) = true := by
  simp only [isDigitOf, digitValue?_hexDigit digit small, decide_eq_true_eq]
  exact small

/-- Four digits hold every code that is written by its digits. -/
theorem readDigits_hexDigits (code : Nat) (small : code < 65536) :
    readDigits 16 (hexDigits code) = code := by
  have digit (value : Nat) : digitValue? (hexDigit (value % 16)) = some (value % 16) :=
    digitValue?_hexDigit _ (Nat.mod_lt _ (by decide))
  simp only [readDigits, hexDigits, List.foldl_cons, List.foldl_nil, digit, Option.getD_some]
  omega

private theorem readUnicodeEscape?_hexDigits (code : Nat) (small : code < 65536) (rest : List Char) (pos : Nat) :
    readUnicodeEscape? ⟨hexDigits code ++ rest, pos⟩ =
      some (code, Input.drop ⟨hexDigits code ++ rest, pos⟩ 4) := by
  have first : hexDigit (code / 4096 % 16) ≠ '\x7b' := hexDigit_ne_brace _ (Nat.mod_lt _ (by decide))
  have taken : (hexDigits code ++ rest).take 4 = hexDigits code := rfl
  have digits : (hexDigits code).all (isDigitOf 16) = true := by
    simp only [hexDigits, List.all_cons, List.all_nil, Bool.and_true, Bool.and_eq_true]
    exact ⟨isDigitOf_hexDigit _ (Nat.mod_lt _ (by decide)), isDigitOf_hexDigit _ (Nat.mod_lt _ (by decide)),
      isDigitOf_hexDigit _ (Nat.mod_lt _ (by decide)), isDigitOf_hexDigit _ (Nat.mod_lt _ (by decide))⟩
  unfold readUnicodeEscape?
  split
  next later braced =>
    simp only [hexDigits, List.cons_append] at braced
    exact absurd (List.cons.inj braced).1 first
  next =>
    simp only [taken, digits, readDigits_hexDigits code small]
    rfl

theorem isCoded_small (c : Char) (coded : isCoded c = true) : c.toNat < 65536 := by
  simp only [isCoded, isControl, Bool.or_eq_true, Bool.and_eq_true, decide_eq_true_eq] at coded
  omega

private theorem drop_append (front rest : List Char) (pos : Nat) :
    Input.drop ⟨front ++ rest, pos⟩ front.length = ⟨rest, pos + byteLength front⟩ := by
  simp only [Input.drop, List.drop_left, List.take_left]

private theorem readString?_backslash (bound : Nat) (rest : List Char) (pos : Nat) (taken : List Nat) :
    readString? '\x22' (bound + 1) ⟨'\\' :: rest, pos⟩ taken =
      match readEscape? ⟨rest, pos + 1⟩ with
      | none => none
      | some (some code, rest) => readString? '\x22' bound rest (code :: taken)
      | some (none, rest) => readString? '\x22' bound rest taken := rfl

/-- One escaped character is read as that character, whatever follows. -/
theorem readString?_escape (c : Char) (bound : Nat) (rest : List Char) (pos : Nat) (taken : List Nat) :
    readString? '\x22' (bound + 1) ⟨escape c ++ rest, pos⟩ taken =
      readString? '\x22' bound ⟨rest, pos + byteLength (escape c)⟩ (c.toNat :: taken) := by
  by_cases quote : c = '\x22'
  · subst c
    rfl
  by_cases backslash : c = '\\'
  · subst c
    rfl
  by_cases lineFeed : c = '\n'
  · subst c
    rfl
  by_cases carriageReturn : c = '\r'
  · subst c
    rfl
  by_cases tab : c = '\t'
  · subst c
    rfl
  cases coded : isCoded c with
  | true =>
    have written : escape c = '\\' :: 'u' :: hexDigits c.toNat := by
      simp only [escape, quote, backslash, lineFeed, carriageReturn, tab, coded, if_false, if_true]
    have opened : readEscape? ⟨'u' :: hexDigits c.toNat ++ rest, pos + 1⟩ =
        some (some c.toNat, ⟨rest, pos + byteLength (escape c)⟩) := by
      have escaped := readUnicodeEscape?_hexDigits c.toNat (isCoded_small c coded) rest (pos + 1 + 1)
      have after : Input.drop ⟨hexDigits c.toNat ++ rest, pos + 1 + 1⟩ 4 =
          ⟨rest, pos + byteLength (escape c)⟩ := by
        rw [written]
        simp only [byteLength_cons, ← Nat.add_assoc]
        exact drop_append (hexDigits c.toNat) rest (pos + 1 + 1)
      rw [after] at escaped
      exact congrArg (Option.map fun read => (some read.1, read.2)) escaped
    have split : escape c ++ rest = '\\' :: ('u' :: hexDigits c.toNat ++ rest) := by
      rw [written]
      rfl
    rw [split, readString?_backslash, opened]
  | false =>
    have written : escape c = [c] := by
      simp only [escape, quote, backslash, lineFeed, carriageReturn, tab, coded, if_false, Bool.false_eq_true]
    rw [written, readString?]
    simp only [List.singleton_append, quote, backslash, lineFeed, carriageReturn, decide_false,
      Bool.or_self, if_false, Bool.false_eq_true]
    rfl

/-- A quoted text is read back as it was, up to its own closing quote. The reader
needs no more steps than there are characters and quotes. -/
theorem readString?_quoted (text rest : List Char) (bound : Nat) (enough : text.length < bound)
    (pos : Nat) (taken : List Nat) :
    readString? '\x22' bound ⟨text.flatMap escape ++ '\x22' :: rest, pos⟩ taken =
      some (taken.reverse ++ text.map Char.toNat, ⟨rest, pos + byteLength (text.flatMap escape) + 1⟩) := by
  induction text generalizing bound pos taken with
  | nil =>
    obtain ⟨steps, rfl⟩ := Nat.exists_eq_add_one.mpr enough
    simp only [List.map_nil, List.append_nil]
    rfl
  | cons c text ih =>
    obtain ⟨steps, rfl⟩ := Nat.exists_eq_add_one.mpr (Nat.lt_of_le_of_lt (Nat.zero_le _) enough)
    rw [List.flatMap_cons, List.append_assoc, readString?_escape,
      ih steps (Nat.lt_of_succ_lt_succ enough)]
    simp only [List.reverse_cons, List.map_cons, List.append_assoc, List.singleton_append,
      byteLength_append, Nat.add_assoc]

/-- Neither a control character nor a separator of lines or paragraphs. -/
def Visible (c : Char) : Prop :=
  ¬ (c.toNat < 0x20 ∨ 0x7f ≤ c.toNat ∧ c.toNat ≤ 0x9f) ∧ c.toNat ≠ 0x2028 ∧ c.toNat ≠ 0x2029

instance (c : Char) : Decidable (Visible c) := inferInstanceAs (Decidable (_ ∧ _))

private theorem visible_of_not_coded (c : Char) (plain : isCoded c ≠ true) : Visible c := by
  simp only [isCoded, isControl, ne_eq, Bool.or_eq_true, Bool.and_eq_true, decide_eq_true_eq] at plain
  unfold Visible
  omega

private theorem hexDigits_visible (code : Nat) : ∀ c ∈ hexDigits code, Visible c := by
  have digit : ∀ value < 16, Visible (hexDigit value) := by decide
  simp only [hexDigits, List.forall_mem_cons]
  exact ⟨digit _ (Nat.mod_lt _ (by decide)), digit _ (Nat.mod_lt _ (by decide)),
    digit _ (Nat.mod_lt _ (by decide)), digit _ (Nat.mod_lt _ (by decide)), nofun⟩

private theorem escape_visible (c : Char) : ∀ written ∈ escape c, Visible written := by
  have pair (letter : Char) (shown : Visible letter) : ∀ written ∈ ['\\', letter], Visible written :=
    List.forall_mem_cons.mpr ⟨by decide, List.forall_mem_singleton.mpr shown⟩
  unfold escape
  split
  · exact pair '\x22' (by decide)
  split
  · exact pair '\\' (by decide)
  split
  · exact pair 'n' (by decide)
  split
  · exact pair 'r' (by decide)
  split
  · exact pair 't' (by decide)
  split
  next =>
    simp only [List.forall_mem_cons]
    exact ⟨by decide, by decide, hexDigits_visible c.toNat⟩
  next plain => exact List.forall_mem_singleton.mpr (visible_of_not_coded c plain)

/-- Whatever a text holds, its quoted form shows no character that is not visible. -/
theorem encode_visible (text : List Char) : ∀ c ∈ encode text, Visible c := by
  have mark : Visible '\x22' := by decide
  simp only [encode, List.cons_append, List.forall_mem_cons, List.forall_mem_append, List.mem_flatMap]
  refine ⟨mark, ?_, mark, nofun⟩
  rintro c ⟨origin, -, inside⟩
  exact escape_visible origin c inside

/-- A quoted text cannot be continued into another one. -/
theorem encode_append_inj {text other rest more : List Char}
    (same : encode text ++ rest = encode other ++ more) : text = other ∧ rest = more := by
  simp only [encode, List.cons_append, List.append_assoc, List.nil_append] at same
  have inside := (List.cons.inj same).2
  let bound := text.length + other.length + 1
  have first := readString?_quoted text rest bound (by omega) 0 []
  have second := readString?_quoted other more bound (by omega) 0 []
  rw [inside, second] at first
  simp only [List.reverse_nil, List.nil_append, Option.some.injEq, Prod.mk.injEq, Input.mk.injEq] at first
  obtain ⟨codes, left, -⟩ := first
  exact ⟨(List.map_inj_right fun a b => Char.toNat_inj.mp).mp codes.symm, left.symm⟩

end LogicFree.Text.Quoted
