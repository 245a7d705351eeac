import LogicFree.Proofs.QuotedReading
import LogicFree.Script.Token

/-! String literals as the script language writes them: a grammar, apart from any reader
and from the printer. A quoted text has one reading by this grammar, whatever follows its
closing quote, and that reading is the text itself. -/

namespace LogicFree.Text.Quoted
open Script

def meaning? : Char → Option Char
  | '\x22' => some '\x22'
  | '\\' => some '\\'
  | 'n' => some '\n'
  | 'r' => some '\r'
  | 't' => some '\t'
  | _ => none

/-- Four hexadecimal digits at the front of a text, the number that they write, and what
follows them. -/
inductive HexCode : List Char → Nat → List Char → Prop where
  | digits {a b c d : Char} {first second third fourth : Nat}
      (highest : digitValue? a = some first) (high : digitValue? b = some second)
      (low : digitValue? c = some third) (lowest : digitValue? d = some fourth) (rest : List Char) :
      HexCode (a :: b :: c :: d :: rest) (4096 * first + 256 * second + 16 * third + fourth) rest

/-- One character inside a string literal, and what follows it. It stands for itself, or it
is written by an escape, by its code or, if its code is too large for that, by two halves. -/
inductive WrittenChar : List Char → Char → List Char → Prop where
  | plain {c : Char} (quote : c ≠ '\x22') (backslash : c ≠ '\\') (lineFeed : c ≠ '\n')
      (carriageReturn : c ≠ '\r') (rest : List Char) : WrittenChar (c :: rest) c rest
  | escaped {letter c : Char} (means : meaning? letter = some c) (rest : List Char) :
      WrittenChar ('\\' :: letter :: rest) c rest
  | coded {text rest : List Char} {code : Nat} {c : Char} (written : HexCode text code rest)
      (same : c.toNat = code) : WrittenChar ('\\' :: 'u' :: text) c rest
  | halves {text more rest : List Char} {first second : Nat}
      (opening : HexCode text first ('\\' :: 'u' :: more)) (closing : HexCode more second rest)
      (high : isHighSurrogate first = true) (low : isLowSurrogate second = true) :
      WrittenChar ('\\' :: 'u' :: text) (joinSurrogates first second) rest

inductive WrittenChars : List Char → List Char → List Char → Prop where
  | close (rest : List Char) : WrittenChars ('\x22' :: rest) [] rest
  | next {text more rest : List Char} {c : Char} {value : List Char}
      (first : WrittenChar text c more) (others : WrittenChars more value rest) :
      WrittenChars text (c :: value) rest

/-- A text begins with a string literal of this value, and this follows it. -/
inductive WrittenLiteral : List Char → List Char → List Char → Prop where
  | opened {text value rest : List Char} (inside : WrittenChars text value rest) :
      WrittenLiteral ('\x22' :: text) value rest

theorem HexCode.unique {text rest more : List Char} {code other : Nat}
    (first : HexCode text code rest) (second : HexCode text other more) :
    code = other ∧ rest = more := by
  cases first with
  | digits highest high low lowest =>
    cases second with
    | digits alsoHighest alsoHigh alsoLow alsoLowest =>
      obtain rfl := Option.some.inj (highest.symm.trans alsoHighest)
      obtain rfl := Option.some.inj (high.symm.trans alsoHigh)
      obtain rfl := Option.some.inj (low.symm.trans alsoLow)
      obtain rfl := Option.some.inj (lowest.symm.trans alsoLowest)
      exact ⟨rfl, rfl⟩

private theorem isSurrogate_toNat (c : Char) : isSurrogate c.toNat = false := by
  have valid : c.toNat < 0xd800 ∨ 0xdfff < c.toNat ∧ c.toNat < 0x110000 := c.valid
  simp only [isSurrogate, isHighSurrogate, isLowSurrogate, Bool.or_eq_false_iff,
    Bool.and_eq_false_iff, decide_eq_false_iff_not]
  omega

private theorem isHighSurrogate_toNat (c : Char) : isHighSurrogate c.toNat = false :=
  (Bool.or_eq_false_iff.mp (isSurrogate_toNat c)).1

theorem WrittenChar.unique {text rest more : List Char} {c other : Char}
    (first : WrittenChar text c rest) (second : WrittenChar text other more) :
    c = other ∧ rest = more := by
  cases first with
  | plain quote backslash =>
    cases second with
    | plain => exact ⟨rfl, rfl⟩
    | escaped => exact absurd rfl backslash
    | coded => exact absurd rfl backslash
    | halves => exact absurd rfl backslash
  | escaped means =>
    cases second with
    | plain _ backslash => exact absurd rfl backslash
    | escaped alike => exact ⟨Option.some.inj (means.symm.trans alike), rfl⟩
    | coded => cases means
    | halves => cases means
  | coded written same =>
    cases second with
    | plain _ backslash => exact absurd rfl backslash
    | escaped means => cases means
    | coded alike sameCode =>
      obtain ⟨codes, rests⟩ := written.unique alike
      exact ⟨Char.toNat_inj.mp (same.trans (codes.trans sameCode.symm)), rests⟩
    | halves opening _ high =>
      -- The first four digits give half of a pair in one reading and a character in the other.
      rw [← (written.unique opening).1, ← same, isHighSurrogate_toNat] at high
      cases high
  | halves opening closing high =>
    cases second with
    | plain _ backslash => exact absurd rfl backslash
    | escaped means => cases means
    | coded alike sameCode =>
      rw [(opening.unique alike).1, ← sameCode, isHighSurrogate_toNat] at high
      cases high
    | halves otherOpening otherClosing =>
      obtain ⟨rfl, same⟩ := opening.unique otherOpening
      cases same
      obtain ⟨rfl, rests⟩ := closing.unique otherClosing
      exact ⟨rfl, rests⟩

private theorem WrittenChar.not_quote {rest more : List Char} {c : Char} :
    ¬ WrittenChar ('\x22' :: rest) c more := by
  intro written
  generalize opened : '\x22' :: rest = text at written
  cases written with
  | plain quote => exact quote (List.cons.inj opened).1.symm
  | escaped | coded | halves => exact absurd (List.cons.inj opened).1 (by decide)

theorem WrittenChars.unique {text value other rest more : List Char}
    (first : WrittenChars text value rest) (second : WrittenChars text other more) :
    value = other ∧ rest = more := by
  induction first generalizing other with
  | close rest =>
    cases second with
    | close => exact ⟨rfl, rfl⟩
    | next written => exact absurd written WrittenChar.not_quote
  | next written others ih =>
    -- The first characters agree and leave one text, so the rest is a matter of that text.
    cases second with
    | close => exact absurd written WrittenChar.not_quote
    | next alike further =>
      obtain ⟨rfl, rfl⟩ := written.unique alike
      obtain ⟨rfl, rests⟩ := ih further
      exact ⟨rfl, rests⟩

private theorem hexCode_hexDigits (code : Nat) (small : code < 65536) (rest : List Char) :
    HexCode (hexDigits code ++ rest) code rest := by
  have digit (value : Nat) : digitValue? (hexDigit (value % 16)) = some (value % 16) :=
    digitValue?_hexDigit _ (Nat.mod_lt _ (by decide))
  have written := HexCode.digits (digit (code / 4096)) (digit (code / 256)) (digit (code / 16))
    (digit code) rest
  have total : 4096 * (code / 4096 % 16) + 256 * (code / 256 % 16) + 16 * (code / 16 % 16) +
      code % 16 = code := by omega
  rwa [total] at written

private theorem writtenChar_escape (c : Char) (rest : List Char) : WrittenChar (escape c ++ rest) c rest := by
  unfold escape
  split
  next quote => subst c; exact .escaped rfl rest
  split
  next backslash => subst c; exact .escaped rfl rest
  split
  next lineFeed => subst c; exact .escaped rfl rest
  split
  next carriageReturn => subst c; exact .escaped rfl rest
  split
  next tab => subst c; exact .escaped rfl rest
  split
  next coded => exact .coded (hexCode_hexDigits c.toNat (isCoded_small c coded) rest) rfl
  next quote backslash lineFeed carriageReturn _ _ =>
    exact .plain quote backslash lineFeed carriageReturn rest

private theorem writtenChars_escaped (text rest : List Char) :
    WrittenChars (text.flatMap escape ++ '\x22' :: rest) text rest := by
  induction text with
  | nil => exact .close rest
  | cons c text ih =>
    rw [List.flatMap_cons, List.append_assoc]
    exact .next (writtenChar_escape c _) ih

private theorem encode_append (text rest : List Char) :
    encode text ++ rest = '\x22' :: (text.flatMap escape ++ '\x22' :: rest) := by
  simp only [encode, List.cons_append, List.append_assoc, List.nil_append]

/-- A quoted text is a literal of that text up to its closing quote, and no other literal. -/
theorem writtenLiteral_encode_iff (text rest value after : List Char) :
    WrittenLiteral (encode text ++ rest) value after ↔ value = text ∧ after = rest := by
  have written := writtenChars_escaped text rest
  rw [encode_append]
  constructor
  · rintro ⟨inside⟩
    exact inside.unique written
  · rintro ⟨rfl, rfl⟩
    exact .opened written

private theorem ofCodePoints?_toNat (text : List Char) : ofCodePoints? (text.map Char.toNat) = some text := by
  induction text with
  | nil => rfl
  | cons c rest ih =>
    cases rest with
    | nil => simp only [List.map_cons, List.map_nil, ofCodePoints?, isSurrogate_toNat,
        Bool.false_eq_true, if_false, Char.ofNat_toNat]
    | cons next rest =>
      rw [List.map_cons] at ih
      simp only [List.map_cons, ofCodePoints?, isHighSurrogate_toNat, isSurrogate_toNat,
        Bool.false_and, Bool.false_eq_true, if_false, ih, Option.map_some, Char.ofNat_toNat]

private theorem readToken_quote (bound : Nat) (newline : Bool) (inside : List Char) (pos : Nat) :
    readToken bound newline ⟨'\x22' :: inside, pos⟩ =
      match readString? '\x22' bound ⟨inside, pos + 1⟩ [] with
      | some (codes, after) => (.string ((ofCodePoints? codes).map String.ofList), after)
      | none => (.invalid, ⟨inside, pos + 1⟩) := by
  have noName : (isNameStart '\x22' || decide ('\x22' = '\\')) = false := by decide +kernel
  have noNumber : (Char.isDigit '\x22' ||
      (decide ('\x22' = '.') && inside.head?.any Char.isDigit)) = false := rfl
  simp only [readToken, noName, noNumber, Bool.false_eq_true, if_false, decide_true, Bool.true_or,
    if_true]
  rfl

/-- The reader of tokens takes a quoted text for a string of that text. -/
theorem readToken_encode (text rest : List Char) (bound : Nat) (enough : text.length < bound)
    (newline : Bool) (pos : Nat) :
    readToken bound newline ⟨encode text ++ rest, pos⟩ =
      (.string (some (String.ofList text)), ⟨rest, pos + byteLength (encode text)⟩) := by
  have length : byteLength (encode text) = 1 + byteLength (text.flatMap escape) + 1 := by
    simp only [encode, List.cons_append, byteLength_cons, byteLength_append, byteLength_nil]
    rfl
  rw [encode_append, readToken_quote, readString?_quoted text rest bound enough]
  simp only [List.reverse_nil, List.nil_append, ofCodePoints?_toNat, Option.map_some, length,
    Nat.add_assoc]

end LogicFree.Text.Quoted

namespace LogicFree
open Text.Quoted

/-- A printed string has one reading as a literal, whatever follows it, and that is the
string. No character of it is a control character or ends a line. -/
theorem quote_read_back (text : String) (rest : List Char) :
    (∀ value after, WrittenLiteral ((quote text).toList ++ rest) value after ↔
      value = text.toList ∧ after = rest) ∧
    ∀ c ∈ (quote text).toList, Visible c := by
  have chars : (quote text).toList = encode text.toList := String.toList_ofList
  rw [chars]
  exact ⟨writtenLiteral_encode_iff text.toList rest, encode_visible text.toList⟩

end LogicFree
