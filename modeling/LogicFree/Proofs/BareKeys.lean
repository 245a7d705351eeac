import LogicFree.Output.Key
import LogicFree.Output.Printer
import LogicFree.Script.Character
import LogicFree.Proofs.RangeDifference

/-! Which keys without quotes are identifiers. The check of a name goes by letters and numbers,
the script language by the properties `ID_Start` and `ID_Continue`. The tables below hold what
the first admits and the second does not; they are compared over all code points. -/

namespace LogicFree.Text

/-- Letters that no identifier holds: circled and squared ones, and the vertical tilde. -/
def strayLetterRanges : Ranges :=
  [(0x24b6, 0x24e9), (0x2e2f, 0x2e2f), (0x1f130, 0x1f149), (0x1f150, 0x1f169), (0x1f170, 0x1f189)]

/-- Numbers that no identifier holds: superscripts, fractions, circled numbers and the
numerals of some scripts. -/
def strayNumberRanges : Ranges :=
  [(0xb2, 0xb3), (0xb9, 0xb9), (0xbc, 0xbe), (0x9f4, 0x9f9), (0xb72, 0xb77), (0xbf0, 0xbf2),
    (0xc78, 0xc7e), (0xd58, 0xd5e), (0xd70, 0xd78), (0xf2a, 0xf33), (0x1372, 0x137c),
    (0x17f0, 0x17f9), (0x2070, 0x2070), (0x2074, 0x2079), (0x2080, 0x2089), (0x2150, 0x215f),
    (0x2189, 0x2189), (0x2460, 0x249b), (0x24ea, 0x24ff), (0x2776, 0x2793), (0x2cfd, 0x2cfd),
    (0x3192, 0x3195), (0x3220, 0x3229), (0x3248, 0x324f), (0x3251, 0x325f), (0x3280, 0x3289),
    (0x32b1, 0x32bf), (0xa830, 0xa835), (0x10107, 0x10133), (0x10175, 0x10178), (0x1018a, 0x1018b),
    (0x102e1, 0x102fb), (0x10320, 0x10323), (0x10858, 0x1085f), (0x10879, 0x1087f),
    (0x108a7, 0x108af), (0x108fb, 0x108ff), (0x10916, 0x1091b), (0x109bc, 0x109bd),
    (0x109c0, 0x109cf), (0x109d2, 0x109ff), (0x10a40, 0x10a48), (0x10a7d, 0x10a7e),
    (0x10a9d, 0x10a9f), (0x10aeb, 0x10aef), (0x10b58, 0x10b5f), (0x10b78, 0x10b7f),
    (0x10ba9, 0x10baf), (0x10cfa, 0x10cff), (0x10e60, 0x10e7e), (0x10f1d, 0x10f26),
    (0x10f51, 0x10f54), (0x10fc5, 0x10fcb), (0x11052, 0x11065), (0x111e1, 0x111f4),
    (0x1173a, 0x1173b), (0x118ea, 0x118f2), (0x11c5a, 0x11c6c), (0x11fc0, 0x11fd4),
    (0x16b5b, 0x16b61), (0x16e80, 0x16e96), (0x1d2c0, 0x1d2d3), (0x1d2e0, 0x1d2f3),
    (0x1d360, 0x1d378), (0x1e8c7, 0x1e8cf), (0x1ec71, 0x1ecab), (0x1ecad, 0x1ecaf),
    (0x1ecb1, 0x1ecb4), (0x1ed01, 0x1ed2d), (0x1ed2f, 0x1ed3d), (0x1f100, 0x1f10c)]

/-- Letters that an identifier may hold but not begin with: vowel signs and other combining marks. -/
def combiningRanges : Ranges :=
  [(0x345, 0x345), (0x363, 0x36f), (0x5b0, 0x5bd), (0x5bf, 0x5bf), (0x5c1, 0x5c2), (0x5c4, 0x5c5),
    (0x5c7, 0x5c7), (0x610, 0x61a), (0x64b, 0x657), (0x659, 0x65f), (0x670, 0x670), (0x6d6, 0x6dc),
    (0x6e1, 0x6e4), (0x6e7, 0x6e8), (0x6ed, 0x6ed), (0x711, 0x711), (0x730, 0x73f), (0x7a6, 0x7b0),
    (0x816, 0x817), (0x81b, 0x823), (0x825, 0x827), (0x829, 0x82c), (0x897, 0x897), (0x8d4, 0x8df),
    (0x8e3, 0x8e9), (0x8f0, 0x903), (0x93a, 0x93b), (0x93e, 0x94c), (0x94e, 0x94f), (0x955, 0x957),
    (0x962, 0x963), (0x981, 0x983), (0x9be, 0x9c4), (0x9c7, 0x9c8), (0x9cb, 0x9cc), (0x9d7, 0x9d7),
    (0x9e2, 0x9e3), (0xa01, 0xa03), (0xa3e, 0xa42), (0xa47, 0xa48), (0xa4b, 0xa4c), (0xa51, 0xa51),
    (0xa70, 0xa71), (0xa75, 0xa75), (0xa81, 0xa83), (0xabe, 0xac5), (0xac7, 0xac9), (0xacb, 0xacc),
    (0xae2, 0xae3), (0xafa, 0xafc), (0xb01, 0xb03), (0xb3e, 0xb44), (0xb47, 0xb48), (0xb4b, 0xb4c),
    (0xb56, 0xb57), (0xb62, 0xb63), (0xb82, 0xb82), (0xbbe, 0xbc2), (0xbc6, 0xbc8), (0xbca, 0xbcc),
    (0xbd7, 0xbd7), (0xc00, 0xc04), (0xc3e, 0xc44), (0xc46, 0xc48), (0xc4a, 0xc4c), (0xc55, 0xc56),
    (0xc62, 0xc63), (0xc81, 0xc83), (0xcbe, 0xcc4), (0xcc6, 0xcc8), (0xcca, 0xccc), (0xcd5, 0xcd6),
    (0xce2, 0xce3), (0xcf3, 0xcf3), (0xd00, 0xd03), (0xd3e, 0xd44), (0xd46, 0xd48), (0xd4a, 0xd4c),
    (0xd57, 0xd57), (0xd62, 0xd63), (0xd81, 0xd83), (0xdcf, 0xdd4), (0xdd6, 0xdd6), (0xdd8, 0xddf),
    (0xdf2, 0xdf3), (0xe31, 0xe31), (0xe34, 0xe3a), (0xe4d, 0xe4d), (0xeb1, 0xeb1), (0xeb4, 0xeb9),
    (0xebb, 0xebc), (0xecd, 0xecd), (0xf71, 0xf83), (0xf8d, 0xf97), (0xf99, 0xfbc),
    (0x102b, 0x1036), (0x1038, 0x1038), (0x103b, 0x103e), (0x1056, 0x1059), (0x105e, 0x1060),
    (0x1062, 0x1064), (0x1067, 0x106d), (0x1071, 0x1074), (0x1082, 0x108d), (0x108f, 0x108f),
    (0x109a, 0x109d), (0x1712, 0x1713), (0x1732, 0x1733), (0x1752, 0x1753), (0x1772, 0x1773),
    (0x17b6, 0x17c8), (0x18a9, 0x18a9), (0x1920, 0x192b), (0x1930, 0x1938), (0x1a17, 0x1a1b),
    (0x1a55, 0x1a5e), (0x1a61, 0x1a74), (0x1abf, 0x1ac0), (0x1acc, 0x1ace), (0x1b00, 0x1b04),
    (0x1b35, 0x1b43), (0x1b80, 0x1b82), (0x1ba1, 0x1ba9), (0x1bac, 0x1bad), (0x1be7, 0x1bf1),
    (0x1c24, 0x1c36), (0x1dd3, 0x1df4), (0x2de0, 0x2dff), (0xa674, 0xa67b), (0xa69e, 0xa69f),
    (0xa802, 0xa802), (0xa80b, 0xa80b), (0xa823, 0xa827), (0xa880, 0xa881), (0xa8b4, 0xa8c3),
    (0xa8c5, 0xa8c5), (0xa8ff, 0xa8ff), (0xa926, 0xa92a), (0xa947, 0xa952), (0xa980, 0xa983),
    (0xa9b4, 0xa9bf), (0xa9e5, 0xa9e5), (0xaa29, 0xaa36), (0xaa43, 0xaa43), (0xaa4c, 0xaa4d),
    (0xaa7b, 0xaa7d), (0xaab0, 0xaab0), (0xaab2, 0xaab4), (0xaab7, 0xaab8), (0xaabe, 0xaabe),
    (0xaaeb, 0xaaef), (0xaaf5, 0xaaf5), (0xabe3, 0xabea), (0xfb1e, 0xfb1e), (0x10376, 0x1037a),
    (0x10a01, 0x10a03), (0x10a05, 0x10a06), (0x10a0c, 0x10a0f), (0x10d24, 0x10d27),
    (0x10d69, 0x10d69), (0x10eab, 0x10eac), (0x10efa, 0x10efc), (0x11000, 0x11002),
    (0x11038, 0x11045), (0x11073, 0x11074), (0x11080, 0x11082), (0x110b0, 0x110b8),
    (0x110c2, 0x110c2), (0x11100, 0x11102), (0x11127, 0x11132), (0x11145, 0x11146),
    (0x11180, 0x11182), (0x111b3, 0x111bf), (0x111ce, 0x111cf), (0x1122c, 0x11234),
    (0x11237, 0x11237), (0x1123e, 0x1123e), (0x11241, 0x11241), (0x112df, 0x112e8),
    (0x11300, 0x11303), (0x1133e, 0x11344), (0x11347, 0x11348), (0x1134b, 0x1134c),
    (0x11357, 0x11357), (0x11362, 0x11363), (0x113b8, 0x113c0), (0x113c2, 0x113c2),
    (0x113c5, 0x113c5), (0x113c7, 0x113ca), (0x113cc, 0x113cd), (0x11435, 0x11441),
    (0x11443, 0x11445), (0x114b0, 0x114c1), (0x115af, 0x115b5), (0x115b8, 0x115be),
    (0x115dc, 0x115dd), (0x11630, 0x1163e), (0x11640, 0x11640), (0x116ab, 0x116b5),
    (0x1171d, 0x1172a), (0x1182c, 0x11838), (0x11930, 0x11935), (0x11937, 0x11938),
    (0x1193b, 0x1193c), (0x11940, 0x11940), (0x11942, 0x11942), (0x119d1, 0x119d7),
    (0x119da, 0x119df), (0x119e4, 0x119e4), (0x11a01, 0x11a0a), (0x11a35, 0x11a39),
    (0x11a3b, 0x11a3e), (0x11a51, 0x11a5b), (0x11a8a, 0x11a97), (0x11b60, 0x11b67),
    (0x11c2f, 0x11c36), (0x11c38, 0x11c3e), (0x11c92, 0x11ca7), (0x11ca9, 0x11cb6),
    (0x11d31, 0x11d36), (0x11d3a, 0x11d3a), (0x11d3c, 0x11d3d), (0x11d3f, 0x11d41),
    (0x11d43, 0x11d43), (0x11d47, 0x11d47), (0x11d8a, 0x11d8e), (0x11d90, 0x11d91),
    (0x11d93, 0x11d96), (0x11ef3, 0x11ef6), (0x11f00, 0x11f01), (0x11f03, 0x11f03),
    (0x11f34, 0x11f3a), (0x11f3e, 0x11f40), (0x1611e, 0x1612e), (0x16f4f, 0x16f4f),
    (0x16f51, 0x16f87), (0x16f8f, 0x16f92), (0x16ff0, 0x16ff1), (0x1bc9e, 0x1bc9e),
    (0x1e000, 0x1e006), (0x1e008, 0x1e018), (0x1e01b, 0x1e021), (0x1e023, 0x1e024),
    (0x1e026, 0x1e02a), (0x1e08f, 0x1e08f), (0x1e6e3, 0x1e6e3), (0x1e6e6, 0x1e6e6),
    (0x1e6ee, 0x1e6ef), (0x1e6f5, 0x1e6f5), (0x1e947, 0x1e947)]

def isStray (c : Char) : Bool := strayLetterRanges.contains c || strayNumberRanges.contains c

def isCombining (c : Char) : Bool := combiningRanges.contains c

private theorem tables_ascending :
    ∀ ranges ∈ [alphabeticRanges, numericRanges, identifierStartRanges, identifierPartRanges,
        strayLetterRanges, strayNumberRanges, combiningRanges, alphabeticRanges.minus identifierStartRanges],
      Ranges.ascending 0 ranges := by
  decide +kernel

private theorem tables_differ :
    identifierStartRanges.minus identifierPartRanges = [] ∧
      alphabeticRanges.minus identifierPartRanges = strayLetterRanges ∧
      numericRanges.minus identifierPartRanges = strayNumberRanges ∧
      (alphabeticRanges.minus identifierStartRanges).minus strayLetterRanges = combiningRanges := by
  decide +kernel

private theorem isIdentifierPart_of_isIdentifierStart {c : Char} (start : isIdentifierStart c = true) :
    isIdentifierPart c = true := by
  have outside := Ranges.contains_minus_iff (tables_ascending identifierStartRanges (by simp))
    (tables_ascending identifierPartRanges (by simp)) rfl tables_differ.1 c
  cases held : isIdentifierPart c with
  | true => rfl
  | false => exact absurd (outside.mpr ⟨start, held⟩) Bool.false_ne_true

private theorem strayLetter_iff (c : Char) :
    strayLetterRanges.contains c = true ↔ isAlphabetic c = true ∧ isIdentifierPart c = false :=
  Ranges.contains_minus_iff (tables_ascending alphabeticRanges (by simp))
    (tables_ascending identifierPartRanges (by simp)) (tables_ascending strayLetterRanges (by simp))
    tables_differ.2.1 c

private theorem strayNumber_iff (c : Char) :
    strayNumberRanges.contains c = true ↔ isNumeric c = true ∧ isIdentifierPart c = false :=
  Ranges.contains_minus_iff (tables_ascending numericRanges (by simp))
    (tables_ascending identifierPartRanges (by simp)) (tables_ascending strayNumberRanges (by simp))
    tables_differ.2.2.1 c

private theorem isStray_iff (c : Char) :
    isStray c = true ↔ (isAlphabetic c = true ∨ isNumeric c = true) ∧ isIdentifierPart c = false := by
  rw [isStray, Bool.or_eq_true, strayLetter_iff, strayNumber_iff, or_and_right]

private theorem isIdentifierPart_of_not_isStray {c : Char} (written : isAlphabetic c = true ∨ isNumeric c = true)
    (unstray : isStray c = false) : isIdentifierPart c = true := by
  cases held : isIdentifierPart c with
  | true => rfl
  | false =>
    have stray := (isStray_iff c).mpr ⟨written, held⟩
    exact absurd (unstray.symm.trans stray) Bool.false_ne_true

private theorem isCombining_iff (c : Char) :
    isCombining c = true ↔ (isAlphabetic c = true ∧ isIdentifierStart c = false) ∧ isIdentifierPart c = true := by
  have openUp := tables_ascending (alphabeticRanges.minus identifierStartRanges) (by simp)
  have unopened := Ranges.contains_minus_iff (tables_ascending alphabeticRanges (by simp))
    (tables_ascending identifierStartRanges (by simp)) openUp rfl c
  have marked := Ranges.contains_minus_iff openUp (tables_ascending strayLetterRanges (by simp))
    (tables_ascending combiningRanges (by simp)) tables_differ.2.2.2 c
  rw [isCombining, marked, unopened]
  refine and_congr_right fun letter => ?_
  rw [← Bool.not_eq_true, strayLetter_iff, not_and, Bool.not_eq_false]
  exact ⟨fun held => held letter.1, fun part _ => part⟩

end LogicFree.Text

namespace LogicFree.Script
open Text

/-- The names of the script language: a character that starts a name, then characters that
continue one. -/
def IsIdentifierName (name : String) : Prop :=
  ∃ first rest, name.toList = first :: rest ∧ isNameStart first = true ∧ ∀ c ∈ rest, isNamePart c = true

private theorem isIdentifierName_iff_of_cons {name : String} {first : Char} {rest : List Char}
    (spelled : name.toList = first :: rest) :
    IsIdentifierName name ↔ isNameStart first = true ∧ ∀ c ∈ rest, isNamePart c = true := by
  constructor
  · rintro ⟨_, _, same, opens, continued⟩
    obtain ⟨rfl, rfl⟩ := List.cons.inj (spelled.symm.trans same)
    exact ⟨opens, continued⟩
  · intro ⟨opens, continued⟩
    exact ⟨first, rest, spelled, opens, continued⟩

private theorem not_isStray_of_isNamePart {c : Char} (part : isNamePart c = true) : isStray c = false := by
  simp only [isNamePart, Bool.or_eq_true, decide_eq_true_eq] at part
  rcases part with ((rfl | held) | joiner) | joiner
  · decide
  · rw [← Bool.not_eq_true, isStray_iff, held]
    simp
  · obtain rfl : c = '\u200c' := Char.toNat_inj.mp joiner
    decide
  · obtain rfl : c = '\u200d' := Char.toNat_inj.mp joiner
    decide

private theorem isNamePart_of_isNameStart {c : Char} (start : isNameStart c = true) :
    isNamePart c = true := by
  simp only [isNameStart, Bool.or_eq_true, decide_eq_true_eq, or_assoc] at start
  rcases start with rfl | rfl | held
  · rfl
  · decide
  · simp [isNamePart, isIdentifierPart_of_isIdentifierStart held]

private theorem not_isCombining_of_isNameStart {c : Char} (start : isNameStart c = true) : isCombining c = false := by
  simp only [isNameStart, Bool.or_eq_true, decide_eq_true_eq, or_assoc] at start
  rcases start with rfl | rfl | held
  · decide
  · decide
  · rw [← Bool.not_eq_true, isCombining_iff, held]
    simp

end LogicFree.Script

namespace LogicFree.Output
open Text

private theorem isNamePart_iff_of_isKeyPart {c : Char} (part : isKeyPart c = true) :
    Script.isNamePart c = true ↔ isStray c = false := by
  refine ⟨Script.not_isStray_of_isNamePart, fun unstray => ?_⟩
  simp only [isKeyPart, Bool.or_eq_true, decide_eq_true_eq, or_assoc] at part
  rcases part with rfl | rfl | written
  · rfl
  · decide
  · have held := isIdentifierPart_of_not_isStray written unstray
    simp [Script.isNamePart, held]

private theorem isNameStart_iff_of_isKeyStart {c : Char} (start : isKeyStart c = true) :
    Script.isNameStart c = true ↔ isStray c = false ∧ isCombining c = false := by
  constructor
  · intro opens
    have part := Script.isNamePart_of_isNameStart opens
    exact ⟨Script.not_isStray_of_isNamePart part, Script.not_isCombining_of_isNameStart opens⟩
  · intro ⟨unstray, unmarked⟩
    simp only [isKeyStart, Bool.or_eq_true, decide_eq_true_eq, or_assoc] at start
    rcases start with rfl | rfl | letter
    · rfl
    · rfl
    · have part := isIdentifierPart_of_not_isStray (.inl letter) unstray
      have held : isIdentifierStart c = true := by
        rw [← Bool.not_eq_false]
        intro closed
        have mark := (isCombining_iff c).mpr ⟨⟨letter, closed⟩, part⟩
        exact absurd (unmarked.symm.trans mark) Bool.false_ne_true
      simp [Script.isNameStart, held]

private theorem exists_of_isIdentifierName {name : String} (bare : isIdentifierName name = true) :
    ∃ first rest, name.toList = first :: rest ∧ isKeyStart first = true ∧ ∀ c ∈ rest, isKeyPart c = true := by
  unfold isIdentifierName at bare
  split at bare
  next => cases bare
  next first rest spelled =>
    obtain ⟨start, parts⟩ := Bool.and_eq_true_iff.mp bare
    exact ⟨first, rest, spelled, start, List.all_eq_true.mp parts⟩

/-- A name that passes the check is written without quotes, and it is an identifier except where
it holds a stray character or begins with a combining one. -/
theorem Key.bare_identifier_iff (name : String) (bare : isIdentifierName name = true) :
    (∀ value, Property.print ⟨Key.ofName name, value⟩ = name ++ ": " ++ value.print) ∧
      (Script.IsIdentifierName name ↔
        (∀ c ∈ name.toList, isStray c = false) ∧ ∀ first ∈ name.toList.head?, isCombining first = false) := by
  constructor
  · intro value
    rw [Property.print, Key.ofName, if_pos bare, Key.print]
  obtain ⟨first, rest, spelled, start, parts⟩ := exists_of_isIdentifierName bare
  have opening := isNameStart_iff_of_isKeyStart start
  have further : (∀ c ∈ rest, Script.isNamePart c = true) ↔ ∀ c ∈ rest, isStray c = false :=
    forall₂_congr fun c member => isNamePart_iff_of_isKeyPart (parts c member)
  rw [Script.isIdentifierName_iff_of_cons spelled, opening, further, spelled]
  simp only [List.mem_cons, forall_eq_or_imp, List.head?_cons, Option.mem_some_iff, forall_eq']
  exact and_right_comm

theorem Key.bare_identifier_iff_accented :
    isIdentifierName "été_2$" = true ∧ Script.IsIdentifierName "été_2$" ∧
      ∀ value, Property.print ⟨Key.ofName "été_2$", value⟩ = "été_2$: " ++ value.print := by
  have bare : isIdentifierName "été_2$" = true := by decide +kernel
  have unstray : "été_2$".toList.all (fun c => isStray c == false) = true := by decide +kernel
  obtain ⟨printed, named⟩ := Key.bare_identifier_iff "été_2$" bare
  refine ⟨bare, named.mpr ⟨?_, ?_⟩, printed⟩
  · intro c member
    exact eq_of_beq (List.all_eq_true.mp unstray c member)
  · intro first opening
    cases (opening : some 'é' = some first)
    rfl

/-- A superscript digit counts as a number and so passes the check. -/
theorem Key.superscript_bare :
    isIdentifierName "x²" = true ∧ (Key.ofName "x²").print = "x²" ∧ ¬ Script.IsIdentifierName "x²" := by
  refine ⟨by decide +kernel, by decide +kernel, ?_⟩
  have spelled : "x²".toList = ['x', '²'] := rfl
  rw [Script.isIdentifierName_iff_of_cons spelled]
  intro ⟨_, parts⟩
  have part := parts '²' (List.mem_singleton_self '²')
  have outside : Script.isNamePart '²' = false := by decide +kernel
  exact Bool.false_ne_true (outside.symm.trans part)

end LogicFree.Output
