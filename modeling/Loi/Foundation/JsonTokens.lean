import Loi.Foundation.Text

/-! The strings and the integers of a compact JSON text, and readers that take them off the
front of one. -/

set_option autoImplicit false

namespace Foundation

/-- The letter that stands behind a backslash for a character that has one. -/
def jsonLetter (c : Char) : Option Char :=
  if c = '"' then some '"'
  else if c = '\\' then some '\\'
  else if c = '\x08' then some 'b'
  else if c = '\x0c' then some 'f'
  else if c = '\n' then some 'n'
  else if c = '\r' then some 'r'
  else if c = '\t' then some 't'
  else none

def jsonEscape (c : Char) : List Char :=
  match jsonLetter c with
  | some letter => ['\\', letter]
  | none =>
      if c.toNat < 32 then
        ['\\', 'u', '0', '0', Nat.digitChar (c.toNat / 16), Nat.digitChar (c.toNat % 16)]
      else [c]

def jsonString (text : String) : List Char :=
  '"' :: (text.toList.flatMap jsonEscape ++ ['"'])

/-- The character that is meant by a letter behind a backslash. -/
def jsonUnescape (letter : Char) : Char :=
  if letter = 'b' then '\x08'
  else if letter = 'f' then '\x0c'
  else if letter = 'n' then '\n'
  else if letter = 'r' then '\r'
  else if letter = 't' then '\t'
  else letter

def hexValue (digit : Char) : Nat :=
  if digit.isDigit then digit.toNat - 48 else digit.toNat - 87

/-- The rest of a string whose opening quotation mark has been read. -/
def readString : List Char → Option (List Char × List Char)
  | [] => none
  | '"' :: rest => some ([], rest)
  | '\\' :: 'u' :: a :: b :: c :: d :: rest => do
      let (text, behind) ← readString rest
      let code := ((hexValue a * 16 + hexValue b) * 16 + hexValue c) * 16 + hexValue d
      return (Char.ofNat code :: text, behind)
  | '\\' :: letter :: rest => do
      let (text, behind) ← readString rest
      return (jsonUnescape letter :: text, behind)
  | c :: rest => do
      let (text, behind) ← readString rest
      return (c :: text, behind)

theorem jsonLetter_some {c letter : Char} (short : jsonLetter c = some letter) :
    letter ≠ 'u' ∧ jsonUnescape letter = c := by
  unfold jsonLetter at short
  split_ifs at short with quote backslash backspace feed newline ret tab
  all_goals cases short
  all_goals simp_all [jsonUnescape]

theorem jsonLetter_none {c : Char} (long : jsonLetter c = none) : c ≠ '"' ∧ c ≠ '\\' := by
  unfold jsonLetter at long
  split_ifs at long with quote backslash
  exact ⟨quote, backslash⟩

theorem hexValue_digitChar : ∀ digit < 16, hexValue (Nat.digitChar digit) = digit := by
  decide

theorem readString_letter {letter : Char} (other : letter ≠ 'u') (rest : List Char) :
    readString ('\\' :: letter :: rest) =
      (readString rest).map fun read => (jsonUnescape letter :: read.1, read.2) := by
  rw [readString]
  · cases readString rest <;> rfl
  · intro a b c d later same
    exact absurd same other

theorem readString_plain {c : Char} (notQuote : c ≠ '"') (notBackslash : c ≠ '\\')
    (rest : List Char) :
    readString (c :: rest) = (readString rest).map fun read => (c :: read.1, read.2) := by
  rw [readString]
  · cases readString rest <;> rfl
  · exact notQuote
  all_goals simp [notBackslash]

/-- One character is taken off, however it is written. -/
theorem readString_jsonEscape (c : Char) (rest : List Char) :
    readString (jsonEscape c ++ rest) =
      (readString rest).map fun read => (c :: read.1, read.2) := by
  unfold jsonEscape
  cases short : jsonLetter c with
  | some letter =>
      obtain ⟨other, means⟩ := jsonLetter_some short
      have read := readString_letter other rest
      rw [means] at read
      exact read
  | none =>
      obtain ⟨notQuote, notBackslash⟩ := jsonLetter_none short
      dsimp only
      split_ifs with control
      · have high := hexValue_digitChar (c.toNat / 16) (by omega)
        have low := hexValue_digitChar (c.toNat % 16) (by omega)
        have zero : hexValue '0' = 0 := by decide
        have code : ((0 * 16 + 0) * 16 + c.toNat / 16) * 16 + c.toNat % 16 = c.toNat := by omega
        simp only [List.cons_append, List.nil_append, readString, high, low, zero, code,
          Char.ofNat_toNat]
        cases readString rest <;> rfl
      · exact readString_plain notQuote notBackslash rest

/-- A string is taken off the front, whatever follows it. -/
theorem readString_jsonString (text : String) (rest : List Char) :
    readString (text.toList.flatMap jsonEscape ++ '"' :: rest) = some (text.toList, rest) := by
  induction text.toList with
  | nil => simp [readString]
  | cons c chars ih =>
      rw [List.flatMap_cons, List.append_assoc, readString_jsonEscape, ih]
      rfl

/-- No character of a string is below the blank. -/
theorem printed_jsonEscape (c : Char) : ∀ d ∈ jsonEscape c, 32 ≤ d.toNat := by
  have digits : ∀ digit < 16, 32 ≤ (Nat.digitChar digit).toNat := by decide
  unfold jsonEscape
  cases short : jsonLetter c with
  | some letter =>
      have shown : 32 ≤ letter.toNat := by
        unfold jsonLetter at short
        split_ifs at short
        all_goals cases short; decide
      simp [shown]
  | none =>
      dsimp only
      split_ifs with control
      · have high := digits (c.toNat / 16) (by omega)
        have low := digits (c.toNat % 16) (by omega)
        simp [high, low]
      · simpa using Nat.not_lt.mp control

theorem printed_jsonString (text : String) : ∀ c ∈ jsonString text, 32 ≤ c.toNat := by
  intro c member
  unfold jsonString at member
  simp only [List.mem_cons, List.mem_append, List.not_mem_nil, or_false] at member
  rcases member with rfl | inside | rfl
  · decide
  · obtain ⟨written, _, among⟩ := List.mem_flatMap.mp inside
    exact printed_jsonEscape written c among
  · decide

/-- The digits are taken as long as there are any. -/
def readNat (chars : List Char) : Option (Nat × List Char) :=
  if chars.takeWhile Char.isDigit = [] then none
  else some (Nat.ofDigitChars 10 (chars.takeWhile Char.isDigit) 0, chars.dropWhile Char.isDigit)

def readInt : List Char → Option (Int × List Char)
  | '-' :: rest => (readNat rest).map fun read => (-read.1, read.2)
  | chars => (readNat chars).map fun read => (read.1, read.2)

/-- No digit comes first. -/
def NoDigit (chars : List Char) : Prop :=
  ∀ c ∈ chars.head?, c.isDigit = false

theorem natToString_first (value : Nat) :
    ∃ c chars, (toString value).toList = c :: chars ∧ c.isDigit = true := by
  rw [Nat.toString_eq_ofList_toDigits, String.toList_ofList]
  have digits : ∀ c ∈ Nat.toDigits 10 value, c.isDigit = true :=
    fun c member => Nat.isDigit_of_mem_toDigits (by decide) (by decide) member
  have nonempty : Nat.toDigits 10 value ≠ [] := Nat.toDigits_ne_nil
  obtain ⟨c, chars, shape⟩ := List.exists_cons_of_ne_nil nonempty
  exact ⟨c, chars, shape, digits c (shape ▸ List.mem_cons_self)⟩

theorem intToString_first (value : Int) :
    ∃ c chars, (toString value).toList = c :: chars ∧ (c = '-' ∨ c.isDigit = true) := by
  cases value with
  | ofNat value =>
      obtain ⟨c, chars, shape, digit⟩ := natToString_first value
      exact ⟨c, chars, shape, .inr digit⟩
  | negSucc value =>
      have shape : toString (Int.negSucc value) = "-" ++ toString (value + 1) := rfl
      exact ⟨'-', _, by rw [shape, String.toList_append]; rfl, .inl rfl⟩

theorem readNat_toString (value : Nat) {rest : List Char} (ends : NoDigit rest) :
    readNat ((toString value).toList ++ rest) = some (value, rest) := by
  have digits : ∀ c ∈ Nat.toDigits 10 value, c.isDigit = true :=
    fun c member => Nat.isDigit_of_mem_toDigits (by decide) (by decide) member
  have nonempty : Nat.toDigits 10 value ≠ [] := Nat.toDigits_ne_nil
  have stops : rest.takeWhile Char.isDigit = [] ∧ rest.dropWhile Char.isDigit = rest := by
    cases rest with
    | nil => exact ⟨rfl, rfl⟩
    | cons c rest =>
        have first : c.isDigit = false := ends c rfl
        simp [first]
  have taken : (Nat.toDigits 10 value ++ rest).takeWhile Char.isDigit = Nat.toDigits 10 value := by
    rw [List.takeWhile_append_of_pos digits, stops.1, List.append_nil]
  have left : (Nat.toDigits 10 value ++ rest).dropWhile Char.isDigit = rest := by
    rw [List.dropWhile_append_of_pos digits, stops.2]
  unfold readNat
  rw [Nat.toString_eq_ofList_toDigits, String.toList_ofList, taken, left, if_neg nonempty,
    Nat.ofDigitChars_ten_toDigits]

/-- An integer is taken off the front of what no digit follows. -/
theorem readInt_toString (value : Int) {rest : List Char} (ends : NoDigit rest) :
    readInt ((toString value).toList ++ rest) = some (value, rest) := by
  cases value with
  | ofNat value =>
      have shape : toString (Int.ofNat value) = toString value := rfl
      have read := readNat_toString value ends
      obtain ⟨c, chars, first, digit⟩ := natToString_first value
      have notMinus : c ≠ '-' := by
        rintro rfl
        cases digit
      rw [shape]
      rw [first, List.cons_append] at read ⊢
      rw [readInt, read]
      · rfl
      · simp [notMinus]
  | negSucc value =>
      have shape : toString (Int.negSucc value) = "-" ++ toString (value + 1) := rfl
      rw [shape, String.toList_append, List.append_assoc]
      change (readNat ((toString (value + 1)).toList ++ rest)).map _ = _
      rw [readNat_toString _ ends]
      rfl

end Foundation
