/-! Texts measured in UTF-8 bytes. -/

namespace LogicFree.Text

-- The zero is named, so that the sum stays the same wherever numbers have more structure.
def byteLength (text : List Char) : Nat := @List.sum Nat _ Zero.ofOfNat0 (text.map Char.utf8Size)

@[simp] theorem byteLength_nil : byteLength [] = 0 := rfl

@[simp] theorem byteLength_cons (c : Char) (rest : List Char) :
    byteLength (c :: rest) = c.utf8Size + byteLength rest := List.sum_cons

@[simp] theorem byteLength_append (front back : List Char) :
    byteLength (front ++ back) = byteLength front + byteLength back := by
  rw [byteLength, List.map_append, List.sum_append_nat, byteLength, byteLength]

/-- The text after so many bytes, if a character begins or the text ends there. -/
def dropBytes? : List Char → Nat → Option (List Char)
  | text, 0 => some text
  | [], _ + 1 => none
  | c :: rest, bytes + 1 =>
    if c.utf8Size ≤ bytes + 1 then dropBytes? rest (bytes + 1 - c.utf8Size) else none

/-- The first so many bytes, if a character begins or the text ends after them. -/
def takeBytes? : List Char → Nat → Option (List Char)
  | _, 0 => some []
  | [], _ + 1 => none
  | c :: rest, bytes + 1 =>
    if c.utf8Size ≤ bytes + 1 then (takeBytes? rest (bytes + 1 - c.utf8Size)).map (c :: ·)
    else none

/-- Dropping the bytes of an opening part leaves the rest. -/
theorem dropBytes?_append (front back : List Char) :
    dropBytes? (front ++ back) (byteLength front) = some back := by
  induction front with
  | nil => simp [dropBytes?]
  | cons c rest ih =>
    obtain ⟨bytes, size⟩ : ∃ bytes, c.utf8Size + byteLength rest = bytes + 1 :=
      ⟨_, (Nat.sub_add_cancel (Nat.le_trans c.utf8Size_pos (Nat.le_add_right ..))).symm⟩
    rw [List.cons_append, byteLength_cons, size, dropBytes?, if_pos (by omega)]
    rw [← size, Nat.add_sub_cancel_left, ih]

/-- Taking the bytes of an opening part gives that part. -/
theorem takeBytes?_append (front back : List Char) :
    takeBytes? (front ++ back) (byteLength front) = some front := by
  induction front with
  | nil => simp [takeBytes?]
  | cons c rest ih =>
    obtain ⟨bytes, size⟩ : ∃ bytes, c.utf8Size + byteLength rest = bytes + 1 :=
      ⟨_, (Nat.sub_add_cancel (Nat.le_trans c.utf8Size_pos (Nat.le_add_right ..))).symm⟩
    rw [List.cons_append, byteLength_cons, size, takeBytes?, if_pos (by omega)]
    rw [← size, Nat.add_sub_cancel_left, ih, Option.map_some]

/-- The text between two byte offsets. A cut inside a character gives none. -/
def slice? (text : List Char) (start stop : Nat) : Option (List Char) :=
  if start ≤ stop then (dropBytes? text start).bind (takeBytes? · (stop - start)) else none

/-- A part is cut out whole by the bytes before it and its own. -/
theorem slice?_append (front middle back : List Char) :
    slice? (front ++ middle ++ back) (byteLength front) (byteLength front + byteLength middle) =
      some middle := by
  rw [slice?, if_pos (Nat.le_add_right ..), List.append_assoc, dropBytes?_append,
    Nat.add_sub_cancel_left, Option.bind_some, takeBytes?_append]

end LogicFree.Text
